import ClassMetrics.Files.FileSystem
import Mathlib.Data.List.Basic

namespace ClassMetrics.FileSystem

variable {files after : FileSystem} {origin : Location} {steps : List String}

def SameFiles (before after : FileSystem) : Prop :=
  ∀ location content,
    after.entry? location = some (.file content) ↔ before.entry? location = some (.file content)

protected theorem SameFiles.refl (files : FileSystem) : files.SameFiles files :=
  fun _ _ => .rfl

/-- Directories are all that was added. -/
def Gains (files after : FileSystem) : Prop :=
  ∃ made : List Location, after = { files with entries := files.entries ++ made.map fun place => (place, .directory) }

namespace Gains

protected theorem refl (files : FileSystem) : files.Gains files :=
  ⟨[], by simp⟩

protected theorem trans {first middle last : FileSystem} (earlier : first.Gains middle) (later : middle.Gains last) :
    first.Gains last := by
  obtain ⟨made, rfl⟩ := earlier
  obtain ⟨more, rfl⟩ := later
  exact ⟨made ++ more, by simp⟩

variable {location : Location} {entry : Entry}

theorem entry?_kept (gains : files.Gains after) (held : files.entry? location = some entry) :
    after.entry? location = some entry := by
  obtain ⟨made, rfl⟩ := gains
  by_cases top : location = []
  · rw [← held]
    simp [top, FileSystem.entry?]
  · simp only [FileSystem.entry?, List.isEmpty_iff, top, if_false] at held ⊢
    rw [List.lookup_append, held, Option.some_or]

theorem entry?_cases (gains : files.Gains after) (held : after.entry? location = some entry) :
    files.entry? location = some entry ∨ entry = .directory := by
  obtain ⟨made, rfl⟩ := gains
  by_cases top : location = []
  · rw [← held]
    simp [top, FileSystem.entry?]
  · simp only [FileSystem.entry?, List.isEmpty_iff, top, if_false] at held ⊢
    rw [List.lookup_append, Option.or_eq_some_iff] at held
    rcases held with there | ⟨_, added⟩
    · exact .inl there
    · obtain ⟨before, behind, parts, _⟩ := List.lookup_eq_some_iff.mp added
      have among : (location, entry) ∈ made.map fun place => (place, Entry.directory) := by simp [parts]
      obtain ⟨_, _, same⟩ := List.mem_map.mp among
      exact .inr (congrArg Prod.snd same).symm

theorem sameFiles (gains : files.Gains after) : files.SameFiles after := by
  intro location content
  constructor
  · intro held
    rcases gains.entry?_cases held with there | added
    · exact there
    · cases added
  · exact gains.entry?_kept

end Gains

section Put

variable {location other : Location}

theorem lookup_filter_other (different : other ≠ location) (entries : List (Location × Entry)) :
    (entries.filter (·.1 != location)).lookup other = entries.lookup other := by
  have unequal : (other == location) = false := beq_eq_false_iff_ne.mpr different
  induction entries with
  | nil => rfl
  | cons entry rest ih =>
      obtain ⟨place, held⟩ := entry
      by_cases removed : place = location
      · simp [removed, List.lookup_cons, unequal, ih]
      · simp [removed, List.lookup_cons, ih]

theorem entry?_put_other (different : other ≠ location) (entry : Entry) :
    FileSystem.entry? (files.put location entry) other = files.entry? other := by
  have unequal : (other == location) = false := beq_eq_false_iff_ne.mpr different
  simp [put, entry?, List.lookup_append, lookup_filter_other different, List.lookup_cons, unequal]

theorem entry?_put_self (inside : location ≠ []) (entry : Entry) :
    FileSystem.entry? (files.put location entry) location = some entry := by
  have removed : (files.entries.filter (·.1 != location)).lookup location = none := by
    simpa [List.lookup_eq_none_iff] using fun place held _ different => Ne.symm different
  simp [put, entry?, inside, List.lookup_append, removed]

theorem gains_put_directory (free : files.entry? location = none) : files.Gains (files.put location .directory) := by
  have inside : location ≠ [] := by
    rintro rfl
    cases free
  have absent : files.entries.lookup location = none := by simpa [inside, entry?] using free
  have kept : files.entries.filter (·.1 != location) = files.entries := by
    rw [List.filter_eq_self]
    intro held among
    have other := List.lookup_eq_none_iff.mp absent held among
    rw [bne_iff_ne] at other ⊢
    exact other.symm
  exact ⟨[location], by rw [put, kept]; rfl⟩

end Put

theorem gains_makeDirectory (made : files.makeDirectory origin steps = .ok after) : files.Gains after := by
  unfold makeDirectory at made
  cases followed : files.follow origin steps.dropLast with
  | error reason => simp [followed, bind, Except.bind] at made
  | ok parent =>
      simp only [followed, bind, Except.bind] at made
      split_ifs at made with outside up long taken
      cases made
      exact gains_put_directory (by simpa using taken)

theorem gains_orPresent {result : Except IoError FileSystem} (kept : ∀ made, result = .ok made → files.Gains made)
    (present : files.orPresent origin steps result = .ok after) : files.Gains after := by
  unfold orPresent at present
  split at present
  · split at present
    · cases present
      exact .refl files
    · cases present
  · exact kept after present

theorem gains_makeDirectories (made : files.makeDirectories origin steps = .ok after) : files.Gains after := by
  fun_induction makeDirectories files origin steps generalizing after with
  | case1 =>
      cases made
      exact .refl files
  | case2 first rest missing ih =>
      -- The directories above come first, then the directory itself in what they leave.
      simp only [missing] at made
      cases above : files.makeDirectories origin (first :: rest).dropLast with
      | error reason => simp [above, bind, Except.bind] at made
      | ok middle =>
          simp only [above, bind, Except.bind] at made
          exact (ih above).trans (gains_orPresent (fun _ => gains_makeDirectory) made)
  | case3 first rest other =>
      apply gains_orPresent (fun _ => gains_makeDirectory)
      split at made
      · exact absurd ‹_› other
      · exact made

theorem gains_createDirectories {path : String} (made : files.createDirectories path = .ok after) :
    files.Gains after := by
  unfold createDirectories at made
  split at made
  · cases made
  · exact gains_makeDirectories made

theorem sameFiles_createDirectories {path : String} (made : files.createDirectories path = .ok after) :
    files.SameFiles after :=
  (gains_createDirectories made).sameFiles

section Following

variable {other : FileSystem} {here location place : Location}

/-- Where a path leads, if it leads anywhere, is written in the path. -/
theorem step_unique {piece : String} (stepped : files.step here piece = .ok location)
    (steppedAlso : other.step here piece = .ok place) : location = place := by
  unfold step at stepped steppedAlso
  split_ifs at stepped steppedAlso <;> cases stepped <;> cases steppedAlso <;> rfl

theorem follow_unique {pieces : List String} (followed : files.follow here pieces = .ok location)
    (followedAlso : other.follow here pieces = .ok place) : location = place := by
  induction pieces generalizing here with
  | nil =>
      cases followed
      cases followedAlso
      rfl
  | cons piece rest ih =>
      cases stepped : files.step here piece with
      | error reason => simp [follow, List.foldlM_cons, stepped, bind, Except.bind] at followed
      | ok next =>
          cases steppedAlso : other.step here piece with
          | error reason => simp [follow, List.foldlM_cons, steppedAlso, bind, Except.bind] at followedAlso
          | ok nextAlso =>
              obtain rfl := step_unique stepped steppedAlso
              simp only [follow, List.foldlM_cons, stepped, steppedAlso, bind, Except.bind] at followed followedAlso
              exact ih followed followedAlso

theorem locate_unique {path : String} (home : files.workingDirectory = other.workingDirectory)
    (located : files.locate path = .ok location) (locatedAlso : other.locate path = .ok place) : location = place := by
  unfold locate at located locatedAlso
  split_ifs at located locatedAlso
  have start : files.origin path = other.origin path := by rw [origin, origin, home]
  rw [start] at located
  exact follow_unique located locatedAlso

end Following

end ClassMetrics.FileSystem
