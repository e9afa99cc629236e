import ClassMetrics.Proofs.Report.PlainText
import ClassMetrics.Run

namespace ClassMetrics

/-!
The stages of a run. All four tasks go through the same three: the output directory is made, the task finds
something out, and the finding is reported. Only the last stage prints, saves result files and looks at limits.
-/

/-- What a task finds out. -/
inductive Finding where
  | coupling (analysis : CouplingAnalysis)
  | cohesion (analysis : CohesionAnalysis)
  | cycles (analysis : CycleAnalysis)
  | both (analysis : CombinedAnalysis)

namespace Finding

def value (now : String) : Finding → Value
  | .coupling analysis => analysis.toValue now
  | .cohesion analysis => analysis.toValue now
  | .cycles analysis => analysis.toValue now
  | .both analysis => analysis.toValue now

def artifacts : Finding → List Artifact
  | .coupling analysis => Artifact.ofCoupling analysis
  | .cohesion analysis => Artifact.ofCohesion analysis
  | .cycles analysis => Artifact.ofCycles analysis
  | .both analysis => Artifact.ofCoupling analysis.coupling ++ Artifact.ofCohesion analysis.cohesion

def violations (settings : Settings) : Finding → List (Option Violation)
  | .coupling analysis => [analysis.violation? settings.couplingLimits]
  | .cohesion analysis => [analysis.violation? settings.lcomLimit]
  | .cycles analysis => [analysis.violation? settings.breakOnCycle]
  | .both analysis =>
      [analysis.coupling.violation? settings.couplingLimits, analysis.cohesion.violation? settings.lcomLimit]

/-- Whether the report of it breaks off, at whatever time it is made. -/
def breaksOff (format : Format) (finding : Finding) : Bool :=
  format.breaksOff (finding.value "")

theorem breaksOff_value_both (format : Format) (analysis : CombinedAnalysis) (now : String) :
    format.breaksOff (value now (.both analysis)) =
      (format.breaksOff (value now (.coupling analysis.coupling)) ||
        format.breaksOff (value now (.cohesion analysis.cohesion))) :=
  format.breaksOff_pair (by decide) _ _

theorem breaksOff_value (format : Format) (finding : Finding) (now : String) :
    format.breaksOff (finding.value now) = finding.breaksOff format := by
  cases finding with
  | coupling | cohesion | cycles => exact format.breaksOff_text _ _ _ _
  | both analysis =>
      rw [breaksOff, breaksOff_value_both, breaksOff_value_both]
      exact congrArg₂ or (format.breaksOff_text _ _ _ _) (format.breaksOff_text _ _ _ _)

end Finding

namespace Run

section Steps

variable {α β : Type} {steps : RunM α} {next : α → RunM β} {session after : Session}

theorem run_bind_ok {value : α} (done : steps.run session = (.ok value, after)) :
    (steps >>= next).run session = (next value).run after := by
  change (match steps.run session with
    | (result, after) => ExceptT.bindCont next result after) = _
  rw [done]
  rfl

theorem run_bind_error {failure : Failure} (failed : steps.run session = (.error failure, after)) :
    (steps >>= next).run session = (.error failure, after) := by
  change (match steps.run session with
    | (result, after) => ExceptT.bindCont next result after) = _
  rw [failed]
  rfl

theorem run_lift {result outcome : Except Failure α} (known : result = outcome) :
    (lift result).run session = (outcome, session) := by
  cases known
  cases result <;> rfl

end Steps

/-- The files with the output directory among them, if there is one. -/
def prepared (settings : Settings) (files : FileSystem) : Except Failure FileSystem :=
  match settings.outputDir with
  | none => .ok files
  | some directory => (files.createDirectories directory).mapError .io

theorem prepared_eq_ok_iff {settings : Settings} {files after : FileSystem} :
    prepared settings files = .ok after ↔
      settings.outputDir = none ∧ files = after ∨
        ∃ directory, settings.outputDir = some directory ∧ files.createDirectories directory = .ok after := by
  unfold prepared
  cases settings.outputDir with
  | none => simp
  | some directory =>
      dsimp only
      cases created : files.createDirectories directory with
      | error reason =>
          change Except.error (Failure.io reason) = _ ↔ _
          simp [created]
      | ok made =>
          change Except.ok made = _ ↔ _
          simp [created]

theorem run_prepareOutput {settings : Settings} {session : Session} {files : FileSystem}
    (made : prepared settings session.files = .ok files) :
    (prepareOutput settings).run session = (.ok (), { session with files }) := by
  rcases prepared_eq_ok_iff.mp made with ⟨unnamed, rfl⟩ | ⟨directory, named, created⟩
  · simp only [prepareOutput, unnamed]
    rfl
  · simp only [prepareOutput, named]
    have current : (get : RunM Session).run session = (.ok session, session) := rfl
    rw [run_bind_ok current, created]
    rfl

theorem run_classFilesFor {settings : Settings} {path : String} {session : Session} {set : ClassFiles}
    (collected : ClassFiles.ofPath session.files settings.exclude path = .ok set) :
    (classFilesFor settings path).run session = (.ok set, session) :=
  run_lift collected

theorem run_readClasses {set : ClassFiles} {session : Session} {outcome : Except Failure (List ClassFile)}
    (read : (set.read session.files).outcome = outcome) :
    (readClasses set).run session = (outcome, session) :=
  run_lift read

/-- What a task finds out, before anything is reported. -/
def investigate (machine : Machine) (settings : Settings) (path : String) :
    CommandLine.Task → RunM Finding
  | .coupling => do
      let set ← classFilesFor settings path
      let platform ← lift settings.platform?
      return .coupling (← lift (CouplingAnalysis.ofClasses platform (← readClasses set)))
  | .cohesion => do
      let set ← classFilesFor settings path
      return .cohesion (.ofClasses (← readClasses set))
  | .cycles dot => do return .cycles (.ofGraph (← dependencies machine settings path dot))
  | .all => do
      let set ← classFilesFor settings path
      let platform ← lift settings.platform?
      return .both (← lift (CombinedAnalysis.ofClasses platform (← readClasses set)))

def report (machine : Machine) (settings : Settings) (finding : Finding) : RunM Unit :=
  conclude settings (finding.value machine.now) finding.artifacts (finding.violations settings)

theorem perform_eq (machine : Machine) (arguments : CommandLine.Arguments) :
    perform machine arguments = (do
      let settings ← lift (settingsFor machine arguments)
      prepareOutput settings
      let finding ← investigate machine settings arguments.path arguments.task
      report machine settings finding) := by
  unfold perform
  congr 1
  funext settings
  congr 1
  funext _
  cases arguments.task with
  | coupling => simp [investigate, coupling, report, Finding.value, Finding.artifacts, Finding.violations]
  | cohesion => simp [investigate, cohesion, report, Finding.value, Finding.artifacts, Finding.violations]
  | cycles dot => simp [investigate, cycles, report, Finding.value, Finding.artifacts, Finding.violations]
  | all => simp [investigate, all, report, Finding.value, Finding.artifacts, Finding.violations]

section Reporting

/-- The files with the result files among them, and what became of saving. -/
def saved (settings : Settings) (artifacts : List Artifact) (files : FileSystem) :
    FileSystem × Except Failure Unit :=
  match settings.outputDir with
  | none => (files, .ok ())
  | some directory =>
      let (files, written) := Artifact.writeAll directory files artifacts
      (files, written.map fun _ => ())

/-- The first limit that is exceeded. -/
def verdict : List (Option Violation) → Except Failure Unit
  | [] => .ok ()
  | none :: rest => verdict rest
  | some violation :: _ => .error (.threshold violation)

theorem run_save (settings : Settings) (artifacts : List Artifact) (session : Session) :
    (save settings artifacts).run session =
      ((saved settings artifacts session.files).2,
        { session with files := (saved settings artifacts session.files).1 }) := by
  cases named : settings.outputDir with
  | none =>
      simp only [save, saved, named]
      rfl
  | some directory =>
      simp only [save, saved, named]
      change ((lift (Artifact.writeAll directory session.files artifacts).2 >>= fun _ => pure ()) : RunM Unit).run
        { session with files := (Artifact.writeAll directory session.files artifacts).1 } = _
      cases (Artifact.writeAll directory session.files artifacts).2 <;> rfl

theorem run_checks (violations : List (Option Violation)) (session : Session) :
    (violations.forM check).run session = (verdict violations, session) := by
  induction violations with
  | nil => rfl
  | cons violation rest ih =>
      cases violation with
      | none => exact ih
      | some violation => rfl

theorem run_present (format : Format) (value : Value) (session : Session) :
    (present format value).run session =
      (if format.breaksOff value then .error .overwideColumn else .ok (),
        { session with printed := session.printed ++ format.render value }) := by
  let printed : Session := { session with printed := session.printed ++ format.render value }
  have print : (print (format.render value)).run session = (.ok (), printed) := rfl
  rw [present, run_bind_ok print]
  cases format.breaksOff value <;> rfl

theorem run_conclude (settings : Settings) (value : Value) (artifacts : List Artifact)
    (violations : List (Option Violation)) (session : Session) (whole : settings.format.breaksOff value = false) :
    (conclude settings value artifacts violations).run session =
      ((saved settings artifacts session.files).2 >>= fun _ => verdict violations,
        { files := (saved settings artifacts session.files).1
          printed := session.printed ++ settings.format.render value }) := by
  let printed : Session := { session with printed := session.printed ++ settings.format.render value }
  have present : (present settings.format value).run session = (.ok (), printed) := by
    rw [run_present, whole]
    rfl
  have save := run_save settings artifacts printed
  rw [conclude, run_bind_ok present]
  cases outcome : (saved settings artifacts session.files).2 with
  | error failure =>
      rw [outcome] at save
      exact run_bind_error save
  | ok done =>
      rw [outcome] at save
      rw [run_bind_ok save, run_checks]
      rfl

/-- A report that breaks off leaves no result files, and no limit is looked at. -/
theorem run_conclude_broken (settings : Settings) (value : Value) (artifacts : List Artifact)
    (violations : List (Option Violation)) (session : Session) (broken : settings.format.breaksOff value = true) :
    (conclude settings value artifacts violations).run session =
      (.error .overwideColumn, { session with printed := session.printed ++ settings.format.render value }) := by
  have present := run_present settings.format value session
  rw [if_pos broken] at present
  exact run_bind_error present

theorem run_report (machine : Machine) (settings : Settings) (finding : Finding) (session : Session) :
    (report machine settings finding).run session =
      if finding.breaksOff settings.format then
        (.error .overwideColumn,
          { session with printed := session.printed ++ settings.format.render (finding.value machine.now) })
      else
        ((saved settings finding.artifacts session.files).2 >>= fun _ => verdict (finding.violations settings),
          { files := (saved settings finding.artifacts session.files).1
            printed := session.printed ++ settings.format.render (finding.value machine.now) }) := by
  rw [← finding.breaksOff_value settings.format machine.now]
  split
  · exact run_conclude_broken settings _ _ _ session ‹_›
  · exact run_conclude settings _ _ _ session (Bool.eq_false_iff.mpr ‹_›)

end Reporting

/-- All that comes before the report. -/
def discover (machine : Machine) (settings : Settings) (path : String) (task : CommandLine.Task) :
    RunM Finding := do
  prepareOutput settings
  investigate machine settings path task

/-- How a run ends, and what it has done then. -/
def result (machine : Machine) (arguments : CommandLine.Arguments) : Except Failure Unit × Session :=
  (perform machine arguments).run { files := machine.files, printed := "" }

theorem result_eq {machine : Machine} {arguments : CommandLine.Arguments} {settings : Settings}
    (loaded : settingsFor machine arguments = .ok settings) :
    result machine arguments =
      (discover machine settings arguments.path arguments.task >>= report machine settings).run
        { files := machine.files, printed := "" } := by
  rw [result, perform_eq, run_bind_ok (run_lift loaded), discover, bind_assoc]

theorem result_prepared {machine : Machine} {arguments : CommandLine.Arguments} {settings : Settings}
    {files : FileSystem} (loaded : settingsFor machine arguments = .ok settings)
    (made : prepared settings machine.files = .ok files) :
    result machine arguments =
      (investigate machine settings arguments.path arguments.task >>= report machine settings).run
        { files, printed := "" } := by
  have directory : (prepareOutput settings).run { files := machine.files, printed := "" } =
      (.ok (), { files, printed := "" }) := run_prepareOutput made
  rw [result_eq loaded, discover, bind_assoc, run_bind_ok directory]

end Run

/-- A machine on which the working directory `/w` is all there is. -/
def Machine.holding (entries : List (Location × Entry)) : Machine where
  files := { entries := (["w"], .directory) :: entries, workingDirectory := ["w"] }
  environment := []
  tools := fun _ _ _ => .notStarted .noEntry
  scratchDir := "/tmp"
  now := "2026-11-15T00:00:00+00:00"

end ClassMetrics
