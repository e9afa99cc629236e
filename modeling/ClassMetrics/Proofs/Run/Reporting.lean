import ClassMetrics.Proofs.Files.Reading
import ClassMetrics.Proofs.Run.Limits
import ClassMetrics.Proofs.Run.ResultFiles

namespace ClassMetrics

namespace Run

section Outcomes

variable {α β : Type} {steps : RunM α} {next : α → RunM β} {session after : Session}

theorem run_bind_eq_ok_iff {value : β} :
    (steps >>= next).run session = (.ok value, after) ↔
      ∃ middle between, steps.run session = (.ok middle, between) ∧ (next middle).run between = (.ok value, after) := by
  cases done : steps.run session with
  | mk outcome between =>
      cases outcome with
      | error failure =>
          rw [run_bind_error done]
          constructor
          · intro same
            cases same
          · rintro ⟨_, _, first, _⟩
            cases first
      | ok middle =>
          rw [run_bind_ok done]
          constructor
          · intro late
            exact ⟨middle, between, rfl, late⟩
          · rintro ⟨_, _, first, late⟩
            cases first
            exact late

theorem run_lift_eq_ok_iff {result : Except Failure α} {value : α} :
    (lift result).run session = (.ok value, after) ↔ result = .ok value ∧ session = after := by
  rw [run_lift rfl, Prod.mk.injEq]

/-- If the steps fail, then not for a limit. -/
def Unlimited (steps : RunM α) : Prop :=
  ∀ session violation after, steps.run session ≠ (.error (.threshold violation), after)

theorem Unlimited.lift {result : Except Failure α} (other : ∀ violation, result ≠ .error (.threshold violation)) :
    Unlimited (lift result) := by
  intro session violation after failed
  rw [run_lift rfl, Prod.mk.injEq] at failed
  exact other violation failed.1

theorem Unlimited.bind (first : Unlimited steps) (second : ∀ value, Unlimited (next value)) :
    Unlimited (steps >>= next) := by
  intro session violation after failed
  cases done : steps.run session with
  | mk outcome between =>
      cases outcome with
      | error failure =>
          rw [run_bind_error done] at failed
          cases failed
          exact first session violation after done
      | ok middle =>
          rw [run_bind_ok done] at failed
          exact second middle between violation after failed

protected theorem Unlimited.pure (value : α) : Unlimited (pure value) := by
  intro session violation after failed
  cases failed

end Outcomes

section Failures

variable {files : FileSystem} {violation : Violation}

theorem readPatterns_ne_threshold (exclude : List String) :
    ClassFiles.readPatterns exclude ≠ .error (.threshold violation) := by
  induction exclude with
  | nil => simp [ClassFiles.readPatterns]
  | cons text rest ih =>
      unfold ClassFiles.readPatterns
      split
      · simp
      · cases read : ClassFiles.readPatterns rest with
        | error failure =>
            rw [read] at ih
            exact fun same => ih same
        | ok patterns => intro same; cases same

theorem ofPath_ne_threshold (exclude : List String) (path : String) :
    ClassFiles.ofPath files exclude path ≠ .error (.threshold violation) := by
  unfold ClassFiles.ofPath
  split
  · simp
  · split
    · cases read : ClassFiles.readPatterns exclude with
      | error failure =>
          intro same
          cases same
          exact readPatterns_ne_threshold exclude read
      | ok patterns => intro same; cases same
    · simp

theorem outcome_ne_threshold (root : Location) (members : List Location) :
    (ClassFiles.readMembers files root members).outcome ≠ .error (.threshold violation) := by
  induction members with
  | nil => intro same; cases same
  | cons member rest ih =>
      rw [ClassFiles.outcome_cons]
      cases read : ClassFiles.readMember files (root ++ member) with
      | error failure =>
          intro same
          cases same
          cases ClassFiles.readMember_eq_error_iff.mp read
      | ok classFile =>
          cases others : (ClassFiles.readMembers files root rest).outcome with
          | error failure =>
              intro same
              cases same
              exact ih others
          | ok classFiles => intro same; cases same

theorem unlimited_classFilesFor (settings : Settings) (path : String) : Unlimited (classFilesFor settings path) := by
  intro session violation after failed
  have listing : (classFilesFor settings path).run session =
      (lift (ClassFiles.ofPath session.files settings.exclude path)).run session := rfl
  rw [listing] at failed
  exact Unlimited.lift (fun _ => ofPath_ne_threshold _ _) session violation after failed

theorem unlimited_readClasses (set : ClassFiles) : Unlimited (readClasses set) := by
  intro session violation after failed
  have reading : (readClasses set).run session = (lift (set.read session.files).outcome).run session := rfl
  rw [reading] at failed
  exact Unlimited.lift (fun _ => outcome_ne_threshold _ _) session violation after failed

theorem unlimited_platform (settings : Settings) : Unlimited (lift settings.platform?) := by
  apply Unlimited.lift
  intro violation
  unfold Settings.platform?
  split <;> simp

theorem unlimited_investigate (machine : Machine) (settings : Settings) (path : String) {task : CommandLine.Task}
    (reads : ∀ dot, task ≠ .cycles dot) : Unlimited (investigate machine settings path task) := by
  have coupling (platform : Platform) (classFiles : List ClassFile) (violation : Violation) :
      CouplingAnalysis.ofClasses platform classFiles ≠ .error (.threshold violation) := by
    unfold CouplingAnalysis.ofClasses
    split <;> simp
  have both (platform : Platform) (classFiles : List ClassFile) (violation : Violation) :
      CombinedAnalysis.ofClasses platform classFiles ≠ .error (.threshold violation) := by
    unfold CombinedAnalysis.ofClasses
    cases built : CouplingAnalysis.ofClasses platform classFiles with
    | error failure =>
        intro same
        cases same
        exact coupling _ _ _ built
    | ok analysis => intro same; cases same
  cases task with
  | coupling =>
      refine (unlimited_classFilesFor settings path).bind fun set => ?_
      refine (unlimited_platform settings).bind fun platform => ?_
      refine (unlimited_readClasses set).bind fun classFiles => ?_
      exact (Unlimited.lift (coupling platform classFiles)).bind fun analysis => .pure _
  | cohesion =>
      refine (unlimited_classFilesFor settings path).bind fun set => ?_
      exact (unlimited_readClasses set).bind fun classFiles => .pure _
  | cycles dot => exact absurd rfl (reads dot)
  | all =>
      refine (unlimited_classFilesFor settings path).bind fun set => ?_
      refine (unlimited_platform settings).bind fun platform => ?_
      refine (unlimited_readClasses set).bind fun classFiles => ?_
      exact (Unlimited.lift (both platform classFiles)).bind fun analysis => .pure _

end Failures

section Reports

variable {machine : Machine} {settings : Settings} {files : FileSystem} {path : String}

/-- All is printed and saved, and at most a limit is exceeded. -/
def Reported (ending : Except Failure Unit) : Prop :=
  ending = .ok () ∨ ∃ violation, ending = .error (.threshold violation)

/-- The analysis of the class files below a path. -/
def Analysed (files : FileSystem) (settings : Settings) (path : String) (analysis : CombinedAnalysis) : Prop :=
  ∃ set classFiles, ClassFiles.ofPath files settings.exclude path = .ok set ∧
    (set.read files).outcome = .ok classFiles ∧ settings.platform? = .ok settings.platform ∧
    CombinedAnalysis.ofClasses settings.platform classFiles = .ok analysis

/-- Directories have no part in it, as long as the path leads to one. -/
theorem Analysed.elsewhere {first second : FileSystem} {analysis : CombinedAnalysis} (gainsFirst : files.Gains first)
    (gainsSecond : files.Gains second) (directory : second.isDirectory path = true)
    (analysed : Analysed first settings path analysis) : Analysed second settings path analysis := by
  obtain ⟨set, classFiles, collected, read, accepts, built⟩ := analysed
  obtain ⟨collectedAgain, readAgain⟩ := ClassFiles.ofPath_gains gainsFirst gainsSecond directory collected
  exact ⟨set, classFiles, collectedAgain, by rwa [readAgain], accepts, built⟩

theorem run_investigate {analysis : CombinedAnalysis} (analysed : Analysed files settings path analysis) :
    (investigate machine settings path .coupling).run ⟨files, ""⟩ = (.ok (.coupling analysis.coupling), ⟨files, ""⟩) ∧
      (investigate machine settings path .cohesion).run ⟨files, ""⟩ =
        (.ok (.cohesion analysis.cohesion), ⟨files, ""⟩) ∧
      (investigate machine settings path .all).run ⟨files, ""⟩ = (.ok (.both analysis), ⟨files, ""⟩) := by
  obtain ⟨set, classFiles, collected, read, accepts, built⟩ := analysed
  let start : Session := ⟨files, ""⟩
  have listed : (classFilesFor settings path).run start = (.ok set, start) := run_classFilesFor collected
  have classes : (readClasses set).run start = (.ok classFiles, start) := run_readClasses read
  cases coupling : CouplingAnalysis.ofClasses settings.platform classFiles with
  | error failure =>
      rw [CombinedAnalysis.ofClasses, coupling] at built
      cases built
  | ok graph =>
      have parts : analysis = ⟨graph, .ofClasses classFiles⟩ := by
        rw [CombinedAnalysis.ofClasses, coupling] at built
        exact (Except.ok.inj built).symm
      subst parts
      refine ⟨?_, ?_, ?_⟩
      · rw [investigate, run_bind_ok listed, run_bind_ok (run_lift accepts), run_bind_ok classes,
          run_bind_ok (run_lift coupling)]
        rfl
      · rw [investigate, run_bind_ok listed, run_bind_ok classes]
        rfl
      · rw [investigate, run_bind_ok listed, run_bind_ok (run_lift accepts), run_bind_ok classes,
          run_bind_ok (run_lift built)]
        rfl

theorem found_coupling {found : Finding} {session after : Session}
    (investigated : (investigate machine settings path .coupling).run session = (.ok found, after)) :
    ∃ set classFiles analysis, ClassFiles.ofPath session.files settings.exclude path = .ok set ∧
      (set.read session.files).outcome = .ok classFiles ∧ settings.platform? = .ok settings.platform ∧
      CouplingAnalysis.ofClasses settings.platform classFiles = .ok analysis ∧
      found = .coupling analysis ∧ after = session := by
  rw [investigate] at investigated
  obtain ⟨set, _, listed, rest⟩ := run_bind_eq_ok_iff.mp investigated
  obtain ⟨collected, rfl⟩ := run_lift_eq_ok_iff.mp listed
  obtain ⟨platform, _, accepted, rest⟩ := run_bind_eq_ok_iff.mp rest
  obtain ⟨accepts, rfl⟩ := run_lift_eq_ok_iff.mp accepted
  obtain ⟨classFiles, _, classes, rest⟩ := run_bind_eq_ok_iff.mp rest
  obtain ⟨read, rfl⟩ := run_lift_eq_ok_iff.mp classes
  obtain ⟨analysis, _, building, done⟩ := run_bind_eq_ok_iff.mp rest
  obtain ⟨built, rfl⟩ := run_lift_eq_ok_iff.mp building
  cases done
  have own : platform = settings.platform := by
    unfold Settings.platform? at accepts
    split at accepts
    · cases accepts
    · exact (Except.ok.inj accepts).symm
  subst own
  exact ⟨set, classFiles, analysis, collected, read, accepts, built, rfl, rfl⟩

theorem found_cohesion {found : Finding} {session after : Session}
    (investigated : (investigate machine settings path .cohesion).run session = (.ok found, after)) :
    ∃ set classFiles, ClassFiles.ofPath session.files settings.exclude path = .ok set ∧
      (set.read session.files).outcome = .ok classFiles ∧ found = .cohesion (.ofClasses classFiles) ∧
      after = session := by
  rw [investigate] at investigated
  obtain ⟨set, _, listed, rest⟩ := run_bind_eq_ok_iff.mp investigated
  obtain ⟨collected, rfl⟩ := run_lift_eq_ok_iff.mp listed
  obtain ⟨classFiles, _, classes, done⟩ := run_bind_eq_ok_iff.mp rest
  obtain ⟨read, rfl⟩ := run_lift_eq_ok_iff.mp classes
  cases done
  exact ⟨set, classFiles, collected, read, rfl, rfl⟩

/-- Both tasks find the parts of what the combined task finds, on trees that differ in directories only. -/
theorem analysed_of_found {first second third : FileSystem} {found measured : Finding} {between after : Session}
    (gainsFirst : files.Gains first) (gainsSecond : files.Gains second) (gainsThird : files.Gains third)
    (same : first.isDirectory path = third.isDirectory path)
    (coupling : (investigate machine settings path .coupling).run ⟨first, ""⟩ = (.ok found, between))
    (cohesion : (investigate machine settings path .cohesion).run ⟨second, ""⟩ = (.ok measured, after)) :
    ∃ analysis, Analysed third settings path analysis ∧ found = .coupling analysis.coupling ∧
      measured = .cohesion analysis.cohesion ∧ between = ⟨first, ""⟩ ∧ after = ⟨second, ""⟩ := by
  obtain ⟨set, classFiles, analysis, collected, read, accepts, built, rfl, rfl⟩ := found_coupling coupling
  obtain ⟨setAgain, classFilesAgain, collectedAgain, readAgain, rfl, rfl⟩ := found_cohesion cohesion
  have directory := ClassFiles.isDirectory_of_ofPath collected
  obtain ⟨collectedFirst, readFirst⟩ := ClassFiles.ofPath_gains gainsSecond gainsFirst directory collectedAgain
  obtain rfl : set = setAgain := Except.ok.inj (collected.symm.trans collectedFirst)
  rw [← readFirst] at readAgain
  obtain rfl : classFiles = classFilesAgain := Except.ok.inj (read.symm.trans readAgain)
  have analysed : Analysed first settings path ⟨analysis, .ofClasses classFiles⟩ := by
    refine ⟨set, classFiles, collected, read, accepts, ?_⟩
    rw [CombinedAnalysis.ofClasses, built]
    rfl
  exact ⟨_, analysed.elsewhere gainsFirst gainsThird (same.symm.trans directory), rfl, rfl, rfl, rfl⟩

variable {arguments : CommandLine.Arguments}

section Found

variable {finding : Finding} (loaded : settingsFor machine arguments = .ok settings)
  (made : prepared settings machine.files = .ok files)
  (found : (investigate machine settings arguments.path arguments.task).run ⟨files, ""⟩ = (.ok finding, ⟨files, ""⟩))

include loaded made found

theorem result_of_found (whole : finding.breaksOff settings.format = false) :
    result machine arguments =
      ((saved settings finding.artifacts files).2 >>= fun _ => verdict (finding.violations settings),
        { files := (saved settings finding.artifacts files).1
          printed := settings.format.render (finding.value machine.now) }) := by
  rw [result_prepared loaded made, run_bind_ok found, run_report, whole, String.empty_append]
  rfl

theorem whole_of_reported (reported : Reported (result machine arguments).1) :
    finding.breaksOff settings.format = false := by
  rw [result_prepared loaded made, run_bind_ok found, run_report] at reported
  cases broken : finding.breaksOff settings.format with
  | false => rfl
  | true =>
      rw [broken] at reported
      rcases reported with fine | ⟨violation, exceeded⟩
      · cases fine
      · cases exceeded

end Found

theorem exists_found_of_reported (loaded : settingsFor machine arguments = .ok settings)
    (made : prepared settings machine.files = .ok files) (reads : ∀ dot, arguments.task ≠ .cycles dot)
    (reported : Reported (result machine arguments).1) :
    ∃ finding session,
      (investigate machine settings arguments.path arguments.task).run ⟨files, ""⟩ = (.ok finding, session) := by
  rw [result_prepared loaded made] at reported
  cases found : (investigate machine settings arguments.path arguments.task).run ⟨files, ""⟩ with
  | mk outcome session =>
      cases outcome with
      | ok finding => exact ⟨finding, session, rfl⟩
      | error failure =>
          rw [run_bind_error found] at reported
          rcases reported with fine | ⟨violation, exceeded⟩
          · cases fine
          · cases exceeded
            exact absurd found (unlimited_investigate machine settings arguments.path reads _ _ _)

theorem writeAll_of_reported {directory : String} {artifacts : List Artifact} {violations : List (Option Violation)}
    (named : settings.outputDir = some directory)
    (reported : Reported ((saved settings artifacts files).2 >>= fun _ => verdict violations)) :
    ∃ names, Artifact.writeAll directory files artifacts = ((saved settings artifacts files).1, .ok names) ∧
      (saved settings artifacts files).2 = .ok () := by
  simp only [saved, named] at reported ⊢
  cases written : Artifact.writeAll directory files artifacts with
  | mk final outcome =>
      rw [written] at reported
      cases outcome with
      | ok names => exact ⟨names, rfl, rfl⟩
      | error failure =>
          rcases reported with fine | ⟨violation, exceeded⟩
          · cases fine
          · cases exceeded
            have never := Artifact.writeAll_ne_threshold directory files artifacts violation
            exact absurd (congrArg Prod.snd written) never

end Reports

end Run

end ClassMetrics
