import ClassMetrics.Artifact
import ClassMetrics.Proofs.Files.Directories

namespace ClassMetrics

namespace Path

structure PlainName (name : String) : Prop where
  noSlash : '/' ∉ name.toList
  nonempty : name ≠ ""
  notHere : name ≠ "."
  notUp : name ≠ ".."

/-- A name that is not refused for its length or its characters. -/
def Fits (name : String) : Prop :=
  '\x00' ∉ name.toList ∧ name.utf8ByteSize ≤ longestName

variable {directory name : String}

theorem PlainName.of_long (noSlash : '/' ∉ name.toList) (long : 2 < name.toList.length) : PlainName name where
  noSlash := noSlash
  nonempty := by rintro rfl; simp at long
  notHere := by rintro rfl; simp at long
  notUp := by rintro rfl; simp at long

theorem isAbsolute_eq_false (noSlash : '/' ∉ name.toList) : isAbsolute name = false := by
  cases chars : name.toList with
  | nil => simp [isAbsolute, chars]
  | cons first rest =>
      rw [chars, List.mem_cons, not_or] at noSlash
      simp [isAbsolute, chars, Ne.symm noSlash.1]

/-- A slash is put between the two unless one is there already or nothing stands before it. -/
theorem join_cases (noSlash : '/' ∉ name.toList) (directory : String) :
    directory = "" ∧ (join directory name).toList = name.toList ∨
      (∃ front, directory.toList = front ++ ['/'] ∧ (join directory name).toList = front ++ '/' :: name.toList) ∨
      directory ≠ "" ∧ (join directory name).toList = directory.toList ++ '/' :: name.toList := by
  unfold join
  rw [isAbsolute_eq_false noSlash]
  by_cases nothing : directory = ""
  · simp [nothing]
  · by_cases divided : directory.toList.getLast? = some '/'
    · obtain ⟨front, whole⟩ := List.getLast?_eq_some_iff.mp divided
      exact .inr (.inl ⟨front, whole, by simp [nothing, whole]⟩)
    · exact .inr (.inr ⟨nothing, by simp [nothing, divided]⟩)

theorem isAbsolute_join (noSlash : '/' ∉ name.toList) (directory : String) :
    isAbsolute (join directory name) = isAbsolute directory := by
  rcases join_cases noSlash directory with ⟨rfl, joined⟩ | ⟨front, whole, joined⟩ | ⟨something, joined⟩
  · rw [isAbsolute, joined]
    exact isAbsolute_eq_false noSlash
  · rw [isAbsolute, isAbsolute, joined, whole]
    cases front <;> rfl
  · rw [isAbsolute, isAbsolute, joined]
    cases chars : directory.toList with
    | nil => exact absurd (String.toList_eq_nil_iff.mp chars) something
    | cons first rest => rfl

theorem mem_join (noSlash : '/' ∉ name.toList) {mark : Char} (other : mark ≠ '/') :
    mark ∈ (join directory name).toList ↔ mark ∈ directory.toList ∨ mark ∈ name.toList := by
  rcases join_cases noSlash directory with ⟨rfl, joined⟩ | ⟨front, whole, joined⟩ | ⟨_, joined⟩
  · simp [joined]
  · simp [joined, whole, other]
  · simp [joined, other]

theorem pieces_join (noSlash : '/' ∉ name.toList) (directory : String) :
    ∃ front, pieces (join directory name) = front ++ [name] ∧
      (pieces directory = front ∨ pieces directory = front ++ [""]) := by
  have single : name.toList.splitOn '/' = [name.toList] := List.splitOn_eq_singleton noSlash
  have behind (front : List Char) : ((front ++ '/' :: name.toList).splitOn '/').map String.ofList =
      (front.splitOn '/').map String.ofList ++ [name] := by
    simp [List.splitOn_append_cons_self, single]
  rcases join_cases noSlash directory with ⟨rfl, joined⟩ | ⟨front, whole, joined⟩ | ⟨_, joined⟩
  · exact ⟨[], by simp [pieces, joined, single], .inr rfl⟩
  · refine ⟨(front.splitOn '/').map String.ofList, by rw [pieces, joined, behind], .inr ?_⟩
    rw [pieces, whole, List.splitOn_append_cons_self, List.map_append]
    rfl
  · exact ⟨pieces directory, by rw [pieces, joined, behind]; rfl, .inl rfl⟩

end Path

namespace FileSystem

variable {files : FileSystem} {directory name : String} {location place here : Location}

/-- The path leads to a directory. -/
structure Leads (files : FileSystem) (directory : String) (location : Location) : Prop where
  followed : files.follow (files.origin directory) (Path.pieces directory) = .ok location
  present : files.holdsDirectory location = true

theorem ne_nil_of_free (free : files.holdsDirectory place = false) : place ≠ [] := by
  rintro rfl
  simp [holdsDirectory, entry?] at free

theorem holdsDirectory_put_file (free : files.holdsDirectory place = false) (content : List UInt8) (other : Location) :
    (files.put place (.file content)).holdsDirectory other = files.holdsDirectory other := by
  by_cases same : other = place
  · rw [same, free, holdsDirectory, entry?_put_self (ne_nil_of_free free)]
    rfl
  · rw [holdsDirectory, entry?_put_other same, holdsDirectory]

theorem isSome_entry?_put (there : (files.entry? location).isSome) (inside : place ≠ []) (entry : Entry) :
    (FileSystem.entry? (files.put place entry) location).isSome := by
  by_cases same : location = place
  · rw [same, entry?_put_self inside]
    rfl
  · rwa [entry?_put_other same]

theorem step_put_file {piece : String} (free : files.holdsDirectory place = false) (content : List UInt8)
    (stepped : files.step here piece = .ok location) :
    (files.put place (.file content)).step here piece = .ok location := by
  unfold step at stepped ⊢
  rw [holdsDirectory_put_file free]
  by_cases there : (files.entry? (here ++ [piece])).isSome
  · rw [if_pos there] at stepped
    rwa [if_pos (isSome_entry?_put there (ne_nil_of_free free) _)]
  · rw [if_neg there] at stepped
    split_ifs at stepped ⊢ <;> exact stepped

theorem follow_put_file {pieces : List String} (free : files.holdsDirectory place = false) (content : List UInt8)
    (followed : files.follow here pieces = .ok location) :
    (files.put place (.file content)).follow here pieces = .ok location := by
  induction pieces generalizing here with
  | nil => exact followed
  | cons piece rest ih =>
      cases stepped : files.step here piece with
      | error reason => simp [follow, List.foldlM_cons, stepped, bind, Except.bind] at followed
      | ok next =>
          have tail : files.follow next rest = .ok location := by
            simpa [follow, List.foldlM_cons, stepped, bind, Except.bind] using followed
          have again := ih tail
          simpa [follow, List.foldlM_cons, step_put_file free content stepped, bind, Except.bind] using again

theorem Leads.put_file (leads : files.Leads directory location) (free : files.holdsDirectory place = false)
    (content : List UInt8) : (files.put place (.file content)).Leads directory location where
  followed := follow_put_file free content leads.followed
  present := by rw [holdsDirectory_put_file free, leads.present]

/-- An empty piece at the end of a path leads nowhere else. -/
theorem follow_dropEmpty {front : List String} (followed : files.follow here (front ++ [""]) = .ok location) :
    files.follow here front = .ok location := by
  simp only [follow, List.foldlM_append, List.foldlM_cons, List.foldlM_nil, bind_pure] at followed
  cases reached : front.foldlM files.step here with
  | error reason => simp [reached, bind, Except.bind] at followed
  | ok middle =>
      have stepped : files.step middle "" = .ok location := by
        simpa [reached, bind, Except.bind] using followed
      cases present : files.holdsDirectory middle with
      | false => simp [step, present] at stepped
      | true =>
          simp only [step, present, Bool.not_true, Bool.false_eq_true, if_false, BEq.rfl, Bool.true_or, if_true,
            Except.ok.injEq] at stepped
          rw [follow, reached, stepped]

theorem writeText_join (leads : files.Leads directory location) (plain : Path.PlainName name) (text : String) :
    files.writeText (Path.join directory name) text =
      if '\x00' ∈ directory.toList ∨ '\x00' ∈ name.toList then .error .nulInName
      else if longestName < name.utf8ByteSize then .error .nameTooLong
      else if files.holdsDirectory (location ++ [name]) then .error .isDirectory
      else .ok (files.put (location ++ [name]) (.file text.toUTF8.toList)) := by
  have nul : (Path.join directory name).toList.contains '\x00' =
      decide ('\x00' ∈ directory.toList ∨ '\x00' ∈ name.toList) := by
    rw [List.contains_eq_mem, decide_eq_decide, Path.mem_join plain.noSlash (by decide)]
  have origin_eq : files.origin (Path.join directory name) = files.origin directory := by
    rw [origin, origin, Path.isAbsolute_join plain.noSlash]
  obtain ⟨front, pieces, led⟩ := Path.pieces_join plain.noSlash directory
  have parent : files.follow (files.origin directory) front = .ok location := by
    rcases led with same | longer
    · rw [← same, leads.followed]
    · exact follow_dropEmpty (longer ▸ leads.followed)
  unfold writeText
  simp only [nul, decide_eq_true_eq, pieces, List.dropLast_concat, List.getLast?_concat, Option.getD_some, origin_eq,
    parent, bind, Except.bind, leads.present, Bool.not_true, Bool.false_eq_true, if_false]
  simp [plain.nonempty, plain.notHere, plain.notUp]

theorem writeText_join_eq_ok_iff (leads : files.Leads directory location) (plain : Path.PlainName name) {text : String}
    {after : FileSystem} :
    files.writeText (Path.join directory name) text = .ok after ↔
      '\x00' ∉ directory.toList ∧ Path.Fits name ∧ files.holdsDirectory (location ++ [name]) = false ∧
        files.put (location ++ [name]) (.file text.toUTF8.toList) = after := by
  rw [writeText_join leads plain, Path.Fits]
  split_ifs with nul long taken
  · simp only [false_iff]
    tauto
  · simp [Nat.not_le.mpr long]
  · simp [taken]
  · rw [not_or] at nul
    simp [nul, Nat.le_of_not_lt long, taken]

end FileSystem

end ClassMetrics
