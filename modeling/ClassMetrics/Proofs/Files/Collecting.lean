import ClassMetrics.Proofs.Files.Listing
import ClassMetrics.Proofs.Files.Reading

namespace ClassMetrics

/-!
Collecting class files. Whatever the order in which directories list what they hold, the files that are collected below
a directory are those with the extension of a class that no pattern covers, each once, in the order of their locations.
-/

/-- An extension stands behind the last dot of a name that does not start with that dot. -/
def Path.HasExtension (name extension : String) : Prop :=
  ∃ stem, stem ≠ "" ∧ '.' ∉ extension.toList ∧ name = stem ++ "." ++ extension

namespace FileSystem

variable {files others : FileSystem} {listing other : Listing} {place : Location} {entry : Entry}

/-- The file system holds the tree that is listed and nothing else. -/
def Lists (files : FileSystem) (listing : Listing) : Prop :=
  files.entries.Perm (listing.walk [])

theorem lookup_eq_some_iff {entries : List (Location × Entry)} (distinct : (entries.map (·.1)).Nodup) :
    entries.lookup place = some entry ↔ (place, entry) ∈ entries := by
  induction entries with
  | nil => simp
  | cons first rest ih =>
      obtain ⟨location, held⟩ := first
      obtain ⟨fresh, restDistinct⟩ := List.nodup_cons.mp distinct
      by_cases here : place = location
      · subst here
        have absent : (place, entry) ∉ rest := fun later => fresh (List.mem_map.mpr ⟨_, later, rfl⟩)
        simp [absent, eq_comm]
      · have unequal : (place == location) = false := beq_eq_false_iff_ne.mpr here
        simp [List.lookup_cons, unequal, here, ih restDistinct]

theorem entry?_perm (reordered : files.entries.Perm others.entries) (distinct : (files.entries.map (·.1)).Nodup)
    (place : Location) : files.entry? place = others.entry? place := by
  have otherDistinct : (others.entries.map (·.1)).Nodup := (reordered.map _).nodup_iff.mp distinct
  unfold entry?
  split
  · rfl
  · apply Option.ext
    intro entry
    rw [lookup_eq_some_iff distinct, lookup_eq_some_iff otherDistinct, reordered.mem_iff]

theorem locate_congr (same : ∀ place, files.entry? place = others.entry? place)
    (home : files.workingDirectory = others.workingDirectory) (path : String) :
    files.locate path = others.locate path := by
  have steps : files.step = others.step := by
    funext here piece
    rw [step, step, holdsDirectory, holdsDirectory, same, same]
  simp only [locate, follow, origin, steps, home]

theorem Lists.nodup (lists : files.Lists listing) (wellFormed : listing.WellFormed) :
    (files.entries.map (·.1)).Nodup :=
  (lists.map _).nodup_iff.mpr (wellFormed.nodup_places [])

theorem Lists.mem_entries_iff (lists : files.Lists listing) :
    (place, entry) ∈ files.entries ↔ listing.Holds place entry := by
  rw [lists.mem_iff, Listing.holds_iff_mem_walk]

end FileSystem

namespace ClassFiles

variable {files others : FileSystem} {listing other : Listing} {root member first second : Location} {name : String}
  {patterns : List Pattern} {exclude : List String} {path : String}

theorem isClassName_iff : isClassName name = true ↔ Path.HasExtension name "class" := by
  have dotless : '.' ∉ "class".toList := by decide
  simp only [isClassName, Bool.and_eq_true, List.isSuffixOf_iff_suffix, bne_iff_ne]
  constructor
  · intro named
    obtain ⟨⟨stem, whole⟩, longer⟩ := named
    have parts : name = String.ofList stem ++ "." ++ "class" := by
      rw [← String.toList_inj, ← whole]
      simp [suffix]
    refine ⟨String.ofList stem, ?_, dotless, parts⟩
    intro nothing
    rw [nothing] at parts
    exact longer parts
  · intro extended
    obtain ⟨stem, something, _, rfl⟩ := extended
    constructor
    · exact ⟨stem.toList, by simp [suffix]⟩
    · intro bare
      apply something
      rw [← String.toList_inj] at bare ⊢
      simpa [suffix] using congrArg List.length bare

theorem below?_eq_some_iff {location : Location} : below? root location = some member ↔ location = root ++ member := by
  unfold below?
  split
  · rename_i above
    obtain ⟨rest, rfl⟩ := List.isPrefixOf_iff_prefix.mp above
    simp
  · rename_i elsewhere
    simp only [reduceCtorEq, false_iff]
    intro same
    rw [same] at elsewhere
    exact elsewhere (List.isPrefixOf_iff_prefix.mpr (List.prefix_append _ _))

/-- What an entry adds to the class files below a directory. -/
def candidate? (root : Location) (visited : Location × Entry) : Option Location :=
  if visited.2 = .directory then none
  else (below? root visited.1).filter fun member => isClassName (member.getLast?.getD "")

theorem collect_eq (files : FileSystem) (root : Location) :
    collect files root = files.entries.filterMap (candidate? root) := by
  unfold collect
  apply List.filterMap_congr
  intro visited _
  obtain ⟨location, entry⟩ := visited
  cases entry with
  | directory => rfl
  | file content => cases seen : below? root location <;> simp [candidate?, seen, Option.filter]

theorem candidate?_eq_some_iff {visited : Location × Entry} :
    candidate? root visited = some member ↔
      visited.1 = root ++ member ∧ visited.2 ≠ .directory ∧
        Path.HasExtension (member.getLast?.getD "") "class" := by
  unfold candidate?
  split
  · rename_i isDirectory
    simp [isDirectory]
  · rename_i isFile
    rw [Option.filter_eq_some_iff, below?_eq_some_iff, isClassName_iff]
    simp [isFile]

theorem mem_collect_iff :
    member ∈ collect files root ↔
      (∃ content, (root ++ member, .file content) ∈ files.entries) ∧
        Path.HasExtension (member.getLast?.getD "") "class" := by
  rw [collect_eq, List.mem_filterMap]
  constructor
  · intro collected
    obtain ⟨⟨location, entry⟩, among, kept⟩ := collected
    obtain ⟨rfl, isFile, named⟩ := candidate?_eq_some_iff.mp kept
    cases entry with
    | directory => exact absurd rfl isFile
    | file content => exact ⟨⟨content, among⟩, named⟩
  · intro held
    obtain ⟨⟨content, among⟩, named⟩ := held
    exact ⟨_, among, candidate?_eq_some_iff.mpr ⟨rfl, Entry.noConfusion, named⟩⟩

theorem nodup_collect (distinct : (files.entries.map (·.1)).Nodup) (root : Location) : (collect files root).Nodup := by
  rw [collect_eq]
  apply (List.pairwise_map.mp distinct).filterMap
  intro first second apart member kept other otherKept same
  apply apart
  rw [(candidate?_eq_some_iff.mp kept).1, (candidate?_eq_some_iff.mp otherKept).1, same]

theorem collect_perm (reordered : files.entries.Perm others.entries) (root : Location) :
    (collect files root).Perm (collect others root) :=
  reordered.filterMap _

theorem isExcluded_eq_false_iff :
    isExcluded patterns root member = false ↔
      ∀ pattern ∈ patterns, pattern.covers (relativePath member) = false ∧
        pattern.covers (Location.path (root ++ member)) = false := by
  simp [isExcluded]

theorem lex_of_inOrder (ordered : inOrder first second = true) (different : first ≠ second) :
    List.Lex (· < ·) first second := by
  by_contra notBefore
  exact different (List.le_antisymm (inOrder_iff.mp ordered) notBefore)

/-- The class files below a directory: any depth, the extension of a class, and no pattern on them. -/
def Selected (listing : Listing) (patterns : List Pattern) (root member : Location) : Prop :=
  (∃ content, listing.Holds (root ++ member) (.file content)) ∧
    Path.HasExtension (member.getLast?.getD "") "class" ∧
    ∀ pattern ∈ patterns, pattern.covers (relativePath member) = false ∧
      pattern.covers (Location.path (root ++ member)) = false

/-- Members are in the order of their parts, and no two are equal. -/
theorem pairwise_lex_mergeSort {members : List Location} (distinct : members.Nodup) :
    (members.mergeSort inOrder).Pairwise (List.Lex (· < ·)) := by
  have sortedDistinct : (members.mergeSort inOrder).Nodup := (List.mergeSort_perm members _).nodup_iff.mpr distinct
  apply (sortedDistinct.and (pairwise_mergeSort_inOrder members)).imp
  intro first second known
  exact lex_of_inOrder known.2 known.1

theorem mergeSort_inOrder_eq {members others : List Location} (reordered : members.Perm others) :
    members.mergeSort inOrder = others.mergeSort inOrder := by
  have same : (members.mergeSort inOrder).Perm (others.mergeSort inOrder) :=
    (List.mergeSort_perm members _).trans (reordered.trans (List.mergeSort_perm others _).symm)
  apply same.eq_of_pairwise _ (pairwise_mergeSort_inOrder members) (pairwise_mergeSort_inOrder others)
  intro first second _ _ before after
  exact List.le_antisymm (inOrder_iff.mp before) (inOrder_iff.mp after)

/-- The order of the entries does not show, as long as no location is listed twice. -/
theorem ofPath_perm (reordered : files.entries.Perm others.entries) (distinct : (files.entries.map (·.1)).Nodup)
    (home : files.workingDirectory = others.workingDirectory) (exclude : List String) (path : String) :
    ofPath files exclude path = ofPath others exclude path := by
  have same := FileSystem.entry?_perm reordered distinct
  have directory (root : Location) : files.holdsDirectory root = others.holdsDirectory root := by
    rw [FileSystem.holdsDirectory, FileSystem.holdsDirectory, same]
  have selected (patterns : List Pattern) (root : Location) :
      ((collect files root).filter fun member => !isExcluded patterns root member).mergeSort inOrder =
        ((collect others root).filter fun member => !isExcluded patterns root member).mergeSort inOrder :=
    mergeSort_inOrder_eq ((collect_perm reordered root).filter _)
  simp only [ofPath, FileSystem.locate_congr same home, directory, selected]

/-- Whatever the tree is and in whatever order it is listed, the class files below a directory are found: those that
are selected, each once, in the order of their parts. Another listing of the tree gives the same. -/
theorem ofPath_selects_in_order (wellFormed : listing.WellFormed) (lists : files.Lists listing)
    (located : files.locate path = .ok root) (directory : files.holdsDirectory root = true)
    (valid : readPatterns exclude = .ok patterns) :
    ∃ members, ofPath files exclude path = .ok ⟨root, members⟩ ∧
      members.Pairwise (List.Lex (· < ·)) ∧
      (∀ member, member ∈ members ↔ Selected listing patterns root member) ∧
      ∀ (other : Listing) (others : FileSystem), other.WellFormed → listing.SameTree other → others.Lists other →
        others.workingDirectory = files.workingDirectory →
        ofPath others exclude path = .ok ⟨root, members⟩ := by
  have distinct := nodup_collect (lists.nodup wellFormed) root
  have collected := ofPath_eq_ok_iff.mpr ⟨root, patterns, located, directory, valid, rfl⟩
  refine ⟨_, collected, pairwise_lex_mergeSort (distinct.filter _), ?_, ?_⟩
  · intro member
    rw [List.mem_mergeSort, List.mem_filter, mem_collect_iff, Selected]
    simp only [lists.mem_entries_iff, Bool.not_eq_true', isExcluded_eq_false_iff, and_assoc]
  · intro other others otherFormed same otherLists home
    have reordered : files.entries.Perm others.entries :=
      lists.trans ((same.walk_perm wellFormed otherFormed).trans otherLists.symm)
    rw [← collected, ofPath_perm reordered (lists.nodup wellFormed) home.symm]

def projectListing : Listing :=
  .directory "w" (.directory "com" (.file "B.class" [] (.file "A.class" [] (.file "A.java" [] .nil)))
    (.directory "gen" (.file "S.class" [] .nil) (.file "Top.class" [] .nil))) .nil

/-- The same project, with every directory listed the other way round. -/
def relistedProject : Listing :=
  .directory "w" (.file "Top.class" [] (.directory "gen" (.file "S.class" [] .nil)
    (.directory "com" (.file "A.java" [] (.file "A.class" [] (.file "B.class" [] .nil))) .nil))) .nil

def filesOf (listing : Listing) : FileSystem where
  entries := listing.walk []
  workingDirectory := ["w"]

theorem lists_filesOf (listing : Listing) : (filesOf listing).Lists listing :=
  List.Perm.refl _

theorem project_selected_in_order :
    projectListing.WellFormed ∧ (filesOf projectListing).Lists projectListing ∧
      (filesOf projectListing).locate "." = .ok ["w"] ∧ (filesOf projectListing).holdsDirectory ["w"] = true ∧
      relistedProject.WellFormed ∧ projectListing.SameTree relistedProject ∧
      ∃ patterns members, readPatterns ["gen/**"] = .ok patterns ∧
        ofPath (filesOf projectListing) ["gen/**"] "." = .ok ⟨["w"], members⟩ ∧
        members.Pairwise (List.Lex (· < ·)) ∧
        (∀ member, member ∈ members ↔ Selected projectListing patterns ["w"] member) ∧
        ["com", "A.class"] ∈ members ∧ ["gen", "S.class"] ∉ members ∧
        ofPath (filesOf relistedProject) ["gen/**"] "." = .ok ⟨["w"], members⟩ := by
  have wellFormed : projectListing.WellFormed := by simp [projectListing, Listing.WellFormed, Listing.names]
  have relistedFormed : relistedProject.WellFormed := by simp [relistedProject, Listing.WellFormed, Listing.names]
  have same : projectListing.SameTree relistedProject := Listing.sameTree_of_perm (by decide +kernel)
  have located : (filesOf projectListing).locate "." = .ok ["w"] := by decide +kernel
  have directory : (filesOf projectListing).holdsDirectory ["w"] = true := by decide +kernel
  have excluded (member : Location) (verdict : Bool)
      (known : ((readPatterns ["gen/**"]).toOption.map fun patterns => isExcluded patterns ["w"] member) = some verdict)
      (patterns : List Pattern) (valid : readPatterns ["gen/**"] = .ok patterns) :
      isExcluded patterns ["w"] member = verdict := by
    simpa [valid, Except.toOption] using known
  cases valid : readPatterns ["gen/**"] with
  | error failure =>
      have accepted : (readPatterns ["gen/**"]).isOk = true := by decide +kernel
      rw [valid] at accepted
      cases accepted
  | ok patterns =>
      obtain ⟨members, collected, sorted, selected, relisted⟩ :=
        ofPath_selects_in_order wellFormed (lists_filesOf _) located directory valid
      have kept := excluded ["com", "A.class"] false (by decide +kernel) patterns valid
      have covered := excluded ["gen", "S.class"] true (by decide +kernel) patterns valid
      refine ⟨wellFormed, lists_filesOf _, located, directory, relistedFormed, same, patterns, members, rfl, collected,
        sorted, selected, ?_, ?_, relisted relistedProject _ relistedFormed same (lists_filesOf _) rfl⟩
      · rw [selected]
        exact ⟨⟨[], Listing.holds_iff_mem_walk.mpr (by decide +kernel)⟩, isClassName_iff.mp (by decide +kernel),
          isExcluded_eq_false_iff.mp kept⟩
      · rw [selected]
        intro chosen
        rw [isExcluded_eq_false_iff.mpr chosen.2.2] at covered
        cases covered

end ClassFiles

end ClassMetrics
