import ClassMetrics.Proofs.Files.Directories
import ClassMetrics.Proofs.Files.Reading
import ClassMetrics.Proofs.Run.Stages
import Mathlib.Control.Monad.Basic

namespace ClassMetrics.Run

variable {machine : Machine} {settings : Settings} {path : String} {session : Session} {set : ClassFiles}

theorem sameFiles_prepared {files after : FileSystem} (made : prepared settings files = .ok after) :
    files.SameFiles after := by
  rcases prepared_eq_ok_iff.mp made with ⟨_, rfl⟩ | ⟨directory, _, created⟩
  · exact .refl files
  · exact FileSystem.sameFiles_createDirectories created

/-- Whether the settings are accepted for a task that reads class files. -/
def Accepts (settings : Settings) : CommandLine.Task → Prop
  | .coupling | .all => settings.platform? = .ok settings.platform
  | .cohesion => True
  | .cycles _ => False

theorem investigate_refused {task : CommandLine.Task} {failure : Failure} (accepts : Accepts settings task)
    (collected : ClassFiles.ofPath session.files settings.exclude path = .ok set)
    (refused : (set.read session.files).outcome = .error failure) :
    (investigate machine settings path task).run session = (.error failure, session) := by
  have listed := run_classFilesFor collected
  have read := run_readClasses refused
  cases task with
  | coupling | all => rw [investigate, run_bind_ok listed, run_bind_ok (run_lift accepts), run_bind_error read]
  | cohesion => rw [investigate, run_bind_ok listed, run_bind_error read]
  | cycles dot => exact accepts.elim

theorem investigate_unbuilt {task : CommandLine.Task} {classFiles : List ClassFile} {fault : MethodFault}
    (accepts : Accepts settings task) (builds : task ≠ .cohesion)
    (collected : ClassFiles.ofPath session.files settings.exclude path = .ok set)
    (read : (set.read session.files).outcome = .ok classFiles)
    (unbuilt : Coupling.graphOf settings.platform classFiles = .error fault) :
    (investigate machine settings path task).run session = (.error (.method fault), session) := by
  have listed := run_classFilesFor collected
  have classes := run_readClasses read
  have coupling : CouplingAnalysis.ofClasses settings.platform classFiles = .error (.method fault) := by
    rw [CouplingAnalysis.ofClasses, unbuilt]
  cases task with
  | coupling =>
      rw [investigate, run_bind_ok listed, run_bind_ok (run_lift accepts), run_bind_ok classes,
        run_bind_error (run_lift coupling)]
  | all =>
      have both : CombinedAnalysis.ofClasses settings.platform classFiles = .error (.method fault) := by
        rw [CombinedAnalysis.ofClasses, coupling]
        rfl
      rw [investigate, run_bind_ok listed, run_bind_ok (run_lift accepts), run_bind_ok classes,
        run_bind_error (run_lift both)]
  | cohesion => exact absurd rfl builds
  | cycles dot => exact accepts.elim

theorem result_of_failure {arguments : CommandLine.Arguments} {files : FileSystem} {failure : Failure}
    (loaded : settingsFor machine arguments = .ok settings) (made : prepared settings machine.files = .ok files)
    (failed : (investigate machine settings arguments.path arguments.task).run { files, printed := "" } =
      (.error failure, { files, printed := "" })) :
    result machine arguments = (.error failure, { files, printed := "" }) := by
  rw [result_prepared loaded made, run_bind_error failed]

/-- A run ends at the first class file, in the order of locations, that cannot be read or decoded, or at the method
of which no graph can be built, with nothing printed and no file created or changed. -/
theorem refused_classes_leave_nothing {arguments : CommandLine.Arguments} {files : FileSystem}
    (loaded : settingsFor machine arguments = .ok settings) (accepts : Accepts settings arguments.task)
    (made : prepared settings machine.files = .ok files)
    (collected : ClassFiles.ofPath files settings.exclude arguments.path = .ok set) :
    machine.files.SameFiles files ∧
      ((∃ member ∈ set.members, ∃ failure, ClassFiles.Refuses files (set.root ++ member) failure) →
        ∃ first ∈ set.members, ∃ failure, ClassFiles.Refuses files (set.root ++ first) failure ∧
          (∀ other ∈ set.members, (∃ fault, ClassFiles.Refuses files (set.root ++ other) fault) →
            ClassFiles.inOrder first other = true) ∧
          result machine arguments = (.error failure, { files, printed := "" })) ∧
      ∀ classFiles fault, arguments.task ≠ .cohesion →
        List.Forall₂ (fun member => ClassFiles.Decodes files (set.root ++ member)) set.members classFiles →
        Coupling.graphOf settings.platform classFiles = .error fault →
        result machine arguments = (.error (.method fault), { files, printed := "" }) := by
  refine ⟨sameFiles_prepared made, ?_, ?_⟩
  · intro refused
    obtain ⟨first, among, failure, refuses, least, outcome⟩ :=
      ClassFiles.outcome_of_refused (ClassFiles.members_inOrder collected) refused
    refine ⟨first, among, failure, refuses, least, ?_⟩
    exact result_of_failure loaded made (investigate_refused accepts collected outcome)
  · intro classFiles fault builds decode unbuilt
    have read := ClassFiles.outcome_of_decodes decode
    exact result_of_failure loaded made (investigate_unbuilt accepts builds collected read unbuilt)

/-- A class `A` with a method `m` whose descriptor is `(`. -/
def unfinishedClass : List UInt8 := [
  0xca, 0xfe, 0xba, 0xbe, 0, 0, 0, 52,
  0, 5, 1, 0, 1, 65, 7, 0, 1, 1, 0, 1, 109, 1, 0, 1, 40,
  0, 33, 0, 2, 0, 0, 0, 0, 0, 0,
  0, 1, 0, 1, 0, 3, 0, 4, 0, 0,
  0, 0]

def unfinishedMachine : Machine := .holding [(["w", "a.class"], .file unfinishedClass)]

/-- One class file decodes, the next may not be read, and the last is no class file. -/
def spoiltMachine : Machine :=
  let machine := Machine.holding [(["w", "c.class"], .file [0]), (["w", "b.class"], .file unfinishedClass),
    (["w", "a.class"], .file unfinishedClass)]
  { machine with files := { machine.files with unreadable := [["w", "b.class"]] } }

def couplingArguments : CommandLine.Arguments where
  path := "."
  format := none
  config := none
  outputDir := some "out"
  verbose := false
  task := .coupling

def withOutput (files : FileSystem) : FileSystem :=
  { files with entries := files.entries ++ [(["w", "out"], .directory)] }

theorem spoiltMachine_leaves_nothing :
    let settings : Settings := { Settings.default with outputDir := some "out" }
    let files := withOutput spoiltMachine.files
    let otherFiles := withOutput unfinishedMachine.files
    Accepts settings .coupling ∧
      settingsFor spoiltMachine couplingArguments = .ok settings ∧
      prepared settings spoiltMachine.files = .ok files ∧
      ClassFiles.ofPath files [] "." = .ok ⟨["w"], [["a.class"], ["b.class"], ["c.class"]]⟩ ∧
      result spoiltMachine couplingArguments =
        (.error (.unreadableClass (Location.path ["w", "b.class"]) .notPermitted), { files, printed := "" }) ∧
      settingsFor unfinishedMachine couplingArguments = .ok settings ∧
      prepared settings unfinishedMachine.files = .ok otherFiles ∧
      ClassFiles.ofPath otherFiles [] "." = .ok ⟨["w"], [["a.class"]]⟩ ∧
      result unfinishedMachine couplingArguments =
        (.error (.method ⟨"A", "m", .invalidDescriptor "("⟩), { files := otherFiles, printed := "" }) := by
  intro settings files otherFiles
  have accepts : Accepts settings .coupling := rfl
  have loaded : settingsFor spoiltMachine couplingArguments = .ok settings := by decide +kernel
  have made : prepared settings spoiltMachine.files = .ok files := by decide +kernel
  have sorted : [["c.class"], ["b.class"], ["a.class"]].mergeSort ClassFiles.inOrder =
      [["a.class"], ["b.class"], ["c.class"]] := by
    have later : ClassFiles.inOrder ["c.class"] ["b.class"] = false := by decide +kernel
    have last : ClassFiles.inOrder ["b.class"] ["a.class"] = false := by decide +kernel
    simp [List.mergeSort, List.MergeSort.Internal.splitInTwo, later, last]
  have collected : ClassFiles.ofPath files [] "." = .ok ⟨["w"], [["a.class"], ["b.class"], ["c.class"]]⟩ := by
    rw [← sorted]
    refine ClassFiles.ofPath_eq_ok_iff.mpr ⟨["w"], [], by decide +kernel, by decide +kernel, rfl, ?_⟩
    congr 2
  have unreadable : ClassFiles.Refuses files ["w", "b.class"]
      (.unreadableClass (Location.path ["w", "b.class"]) .notPermitted) :=
    .unreadable (by decide +kernel)
  obtain ⟨first, among, failure, refuses, least, ending⟩ :=
    (refused_classes_leave_nothing loaded accepts made collected).2.1 ⟨["b.class"], by simp, _, unreadable⟩
  have least := least ["b.class"] (by simp) ⟨_, unreadable⟩
  have refuses := ClassFiles.readMember_eq_error_iff.mpr refuses
  have failure_eq : failure = .unreadableClass (Location.path ["w", "b.class"]) .notPermitted := by
    simp only [List.mem_cons, List.not_mem_nil, or_false] at among
    rcases among with rfl | rfl | rfl
    · have decodes : (ClassFiles.readMember files ["w", "a.class"]).isOk = true := by decide +kernel
      rw [show ClassFiles.readMember files ["w", "a.class"] = .error failure from refuses] at decodes
      exact absurd decodes Bool.false_ne_true
    · exact Except.error.inj (refuses.symm.trans (ClassFiles.readMember_eq_error_iff.mpr unreadable))
    · exact absurd least (by decide +kernel)
  have otherLoaded : settingsFor unfinishedMachine couplingArguments = .ok settings := by decide +kernel
  have otherMade : prepared settings unfinishedMachine.files = .ok otherFiles := by decide +kernel
  have otherCollected : ClassFiles.ofPath otherFiles [] "." = .ok ⟨["w"], [["a.class"]]⟩ := by
    rw [← List.mergeSort_singleton ["a.class"]]
    refine ClassFiles.ofPath_eq_ok_iff.mpr ⟨["w"], [], by decide +kernel, by decide +kernel, rfl, ?_⟩
    congr 2
  have otherEnding := (refused_classes_leave_nothing otherLoaded accepts otherMade otherCollected).2.2
    [{ name := "A", superclass := none, accessFlags := 33, fields := [], methods := [⟨"m", "(", [], []⟩] }]
    ⟨"A", "m", .invalidDescriptor "("⟩ (by decide)
    (.cons ⟨unfinishedClass, by decide +kernel, by decide +kernel⟩ .nil) (by decide +kernel)
  subst failure_eq
  exact ⟨accepts, loaded, made, collected, ending, otherLoaded, otherMade, otherCollected, otherEnding⟩

end ClassMetrics.Run
