import ClassMetrics.Files.ClassFiles
import ClassMetrics.Proofs.Files.Directories
import Mathlib.Data.List.Forall2

namespace ClassMetrics.ClassFiles

variable {files : FileSystem} {root location : Location} {members : List Location} {failure : Failure}

def Decodes (files : FileSystem) (location : Location) (classFile : ClassFile) : Prop :=
  ∃ content, files.contentAt location = .ok content ∧ ClassFile.decode content = .ok classFile

/-- A file that cannot be read, or whose content is no class file, and the failure that says so. -/
inductive Refuses (files : FileSystem) (location : Location) : Failure → Prop where
  | unreadable {reason : IoError} (refused : files.contentAt location = .error reason) :
      Refuses files location (.unreadableClass location.path reason)
  | malformed {content : List UInt8} {reason : FormatError} (read : files.contentAt location = .ok content)
      (refused : ClassFile.decode content = .error reason) :
      Refuses files location (.malformedClass location.path reason)

theorem readMember_eq_ok_iff {classFile : ClassFile} :
    readMember files location = .ok classFile ↔ Decodes files location classFile := by
  unfold readMember Decodes
  cases files.contentAt location with
  | error reason => simp
  | ok content => cases decoded : ClassFile.decode content <;> simp [decoded]

theorem readMember_eq_error_iff :
    readMember files location = .error failure ↔ Refuses files location failure := by
  constructor
  · intro failed
    unfold readMember at failed
    split at failed
    · cases failed
      exact .unreadable ‹_›
    · split at failed
      · cases failed
        exact .malformed ‹_› ‹_›
      · cases failed
  · intro refuses
    cases refuses with
    | unreadable refused => simp [readMember, refused]
    | malformed read refused => simp [readMember, read, refused]

theorem outcome_cons (member : Location) (rest : List Location) :
    (readMembers files root (member :: rest)).outcome = (do
      let classFile ← readMember files (root ++ member)
      let classFiles ← (readMembers files root rest).outcome
      return classFile :: classFiles) := by
  rw [readMembers]
  cases readMember files (root ++ member) with
  | error failure => rfl
  | ok classFile =>
      obtain ⟨classes, failure⟩ := readMembers files root rest
      cases failure <;> rfl

theorem outcome_of_decodes {classFiles : List ClassFile}
    (decode : List.Forall₂ (fun member => Decodes files (root ++ member)) members classFiles) :
    (readMembers files root members).outcome = .ok classFiles := by
  induction decode with
  | nil => rfl
  | cons first _ ih =>
      rw [outcome_cons, readMember_eq_ok_iff.mpr first, ih]
      rfl

theorem inOrder_iff {first second : Location} : inOrder first second = true ↔ List.le first second := by
  rw [inOrder, Bool.not_eq_true', ← Bool.not_eq_true, List.lex_eq_true_iff_lex]
  simp only [decide_eq_true_eq]
  exact .rfl

theorem ofPath_eq_ok_iff {exclude : List String} {path : String} {set : ClassFiles} :
    ofPath files exclude path = .ok set ↔
      ∃ root patterns, files.locate path = .ok root ∧ files.holdsDirectory root = true ∧
        readPatterns exclude = .ok patterns ∧
        set = ⟨root, ((collect files root).filter fun member =>
          !isExcluded patterns root member).mergeSort inOrder⟩ := by
  unfold ofPath
  cases located : files.locate path with
  | error reason => simp
  | ok root =>
      by_cases directory : files.holdsDirectory root
      · cases compiled : readPatterns exclude with
        | error failure => simp [directory, bind, Except.bind]
        | ok patterns =>
            simp only [directory, bind, Except.bind, pure, Except.pure, if_true, Except.ok.injEq]
            constructor
            · rintro rfl
              exact ⟨root, patterns, rfl, directory, rfl, rfl⟩
            · rintro ⟨_, _, rfl, _, rfl, rfl⟩
              rfl
      · simp [directory]

theorem pairwise_mergeSort_inOrder (members : List Location) :
    (members.mergeSort inOrder).Pairwise fun first second => inOrder first second = true := by
  apply List.pairwise_mergeSort
  · intro first middle last earlier later
    exact inOrder_iff.mpr (List.le_trans (inOrder_iff.mp earlier) (inOrder_iff.mp later))
  · intro first second
    rw [Bool.or_eq_true, inOrder_iff, inOrder_iff]
    exact List.le_total first second

theorem members_inOrder {exclude : List String} {path : String} {set : ClassFiles}
    (collected : ofPath files exclude path = .ok set) :
    set.members.Pairwise fun first second => inOrder first second = true := by
  obtain ⟨root, patterns, _, _, _, rfl⟩ := ofPath_eq_ok_iff.mp collected
  exact pairwise_mergeSort_inOrder _

/-- Reading fails as the first file does that is refused. -/
theorem outcome_of_refused (sorted : members.Pairwise fun first second => inOrder first second = true)
    (refused : ∃ member ∈ members, ∃ failure, Refuses files (root ++ member) failure) :
    ∃ first ∈ members, ∃ failure, Refuses files (root ++ first) failure ∧
      (∀ other ∈ members, (∃ fault, Refuses files (root ++ other) fault) → inOrder first other = true) ∧
      (readMembers files root members).outcome = .error failure := by
  induction members with
  | nil => simp at refused
  | cons member rest ih =>
      obtain ⟨least, sortedRest⟩ := List.pairwise_cons.mp sorted
      cases read : readMember files (root ++ member) with
      | error failure =>
          refine ⟨member, List.mem_cons_self, failure, readMember_eq_error_iff.mp read, ?_, ?_⟩
          · intro other among _
            rcases List.mem_cons.mp among with rfl | later
            · exact inOrder_iff.mpr (List.le_refl _)
            · exact least other later
          · rw [outcome_cons, read]
            rfl
      | ok classFile =>
          have fine : ¬ ∃ fault, Refuses files (root ++ member) fault := by
            simp [← readMember_eq_error_iff, read]
          have later : ∃ member ∈ rest, ∃ failure, Refuses files (root ++ member) failure := by
            obtain ⟨member, among, refuses⟩ := refused
            rcases List.mem_cons.mp among with rfl | later
            · exact absurd refuses fine
            · exact ⟨member, later, refuses⟩
          obtain ⟨first, among, failure, refuses, before, outcome⟩ := ih sortedRest later
          refine ⟨first, List.mem_cons_of_mem _ among, failure, refuses, ?_, ?_⟩
          · intro other amongAll refusesOther
            rcases List.mem_cons.mp amongAll with rfl | later
            · exact absurd refusesOther fine
            · exact before other later refusesOther
          · rw [outcome_cons, read, outcome]
            rfl

theorem isDirectory_of_ofPath {exclude : List String} {path : String} {set : ClassFiles}
    (collected : ofPath files exclude path = .ok set) : files.isDirectory path = true := by
  obtain ⟨root, _, located, present, _⟩ := ofPath_eq_ok_iff.mp collected
  simpa [FileSystem.isDirectory, FileSystem.find?, FileSystem.holdsDirectory, located] using present

section Gaining

variable {first second : FileSystem}

theorem collect_gains (gains : files.Gains first) (root : Location) : collect first root = collect files root := by
  obtain ⟨made, rfl⟩ := gains
  simp [collect, List.filterMap_append, List.filterMap_map]

theorem isSome_of_mem_collect {member : Location} (collected : member ∈ collect files root) :
    (files.entry? (root ++ member)).isSome := by
  obtain ⟨⟨location, entry⟩, among, kept⟩ := List.mem_filterMap.mp collected
  cases entry with
  | directory => simp at kept
  | file content =>
      cases seen : below? root location with
      | none => simp [seen] at kept
      | some below =>
          simp only [seen] at kept
          split_ifs at kept
          cases kept
          unfold below? at seen
          split_ifs at seen with above
          cases seen
          obtain ⟨below, rfl⟩ := List.isPrefixOf_iff_prefix.mp above
          rw [List.drop_left, FileSystem.entry?]
          split
          · rfl
          · exact List.lookup_isSome_iff.mpr ⟨_, among, by simp⟩

theorem readMembers_gains (gains : files.Gains first)
    (there : ∀ member ∈ members, (files.entry? (root ++ member)).isSome) :
    readMembers first root members = readMembers files root members := by
  induction members with
  | nil => rfl
  | cons member rest ih =>
      obtain ⟨here, others⟩ := List.forall_mem_cons.mp there
      have content : first.contentAt (root ++ member) = files.contentAt (root ++ member) := by
        obtain ⟨entry, held⟩ := Option.isSome_iff_exists.mp here
        have kept := gains.entry?_kept held
        obtain ⟨made, rfl⟩ := gains
        simp only [FileSystem.contentAt, held, kept]
      simp only [readMembers, readMember, content, ih others]

/-- Class files are found and read alike in two trees that differ in directories only, if the path is a directory in
both. -/
theorem ofPath_gains {exclude : List String} {path : String} {set : ClassFiles} (gainsFirst : files.Gains first)
    (gainsSecond : files.Gains second) (directory : second.isDirectory path = true)
    (collected : ofPath first exclude path = .ok set) :
    ofPath second exclude path = .ok set ∧ set.read second = set.read first := by
  obtain ⟨root, patterns, located, _, compiled, rfl⟩ := ofPath_eq_ok_iff.mp collected
  have there : ∃ place, second.locate path = .ok place ∧ second.holdsDirectory place = true := by
    cases locatedAlso : second.locate path with
    | error reason => simp [FileSystem.isDirectory, FileSystem.find?, locatedAlso] at directory
    | ok place =>
        refine ⟨place, rfl, ?_⟩
        simpa [FileSystem.isDirectory, FileSystem.find?, FileSystem.holdsDirectory, locatedAlso] using directory
  obtain ⟨place, locatedAlso, present⟩ := there
  have home : first.workingDirectory = second.workingDirectory := by
    obtain ⟨_, rfl⟩ := gainsFirst
    obtain ⟨_, rfl⟩ := gainsSecond
    rfl
  obtain rfl := FileSystem.locate_unique home located locatedAlso
  have members : ∀ member ∈ ((collect first root).filter fun member =>
      !isExcluded patterns root member).mergeSort inOrder, (files.entry? (root ++ member)).isSome := by
    intro member among
    rw [List.mem_mergeSort, collect_gains gainsFirst] at among
    exact isSome_of_mem_collect (List.mem_of_mem_filter among)
  constructor
  · refine ofPath_eq_ok_iff.mpr ⟨root, patterns, locatedAlso, present, compiled, ?_⟩
    rw [collect_gains gainsFirst, collect_gains gainsSecond]
  · exact (readMembers_gains gainsSecond members).trans (readMembers_gains gainsFirst members).symm

end Gaining

end ClassMetrics.ClassFiles
