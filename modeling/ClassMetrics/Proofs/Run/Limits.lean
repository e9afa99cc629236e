import ClassMetrics.Proofs.Run.Stages
import Mathlib.Control.Monad.Basic

namespace ClassMetrics

/-- The settings with every limit taken off. -/
def Settings.withoutLimits (settings : Settings) : Settings :=
  { settings with couplingLimits := ⟨0, 0⟩, lcomLimit := 0, breakOnCycle := false }

namespace Run

theorem discover_withoutLimits (machine : Machine) (settings : Settings) (path : String)
    (task : CommandLine.Task) :
    discover machine settings.withoutLimits path task = discover machine settings path task := by
  cases task with
  | coupling | cohesion | all => rfl
  | cycles dot => cases dot <;> rfl

theorem saved_withoutLimits (settings : Settings) (artifacts : List Artifact) (files : FileSystem) :
    saved settings.withoutLimits artifacts files = saved settings artifacts files := rfl

/-- Neither the environment nor the time has a part in what is found. -/
theorem discover_elsewhere (machine : Machine) (settings : Settings) (path : String) (task : CommandLine.Task)
    (environment : List (String × String)) (now : String) :
    discover { machine with environment, now } settings path task = discover machine settings path task := by
  cases task with
  | coupling | cohesion | all => rfl
  | cycles dot => cases dot <;> rfl

theorem verdict_cases (violations : List (Option Violation)) :
    verdict violations = .ok () ∨ ∃ violation, verdict violations = .error (.threshold violation) := by
  induction violations with
  | nil => exact .inl rfl
  | cons violation rest ih =>
      cases violation with
      | none => exact ih
      | some violation => exact .inr ⟨violation, rfl⟩

theorem bind_verdict_eq_error_iff {written : Except Failure Unit} {violations : List (Option Violation)}
    {failure : Failure} (other : ∀ violation, failure ≠ .threshold violation) :
    (written >>= fun _ => verdict violations) = .error failure ↔ written = .error failure := by
  cases written with
  | error reason => rfl
  | ok done =>
      rcases verdict_cases violations with fine | ⟨violation, exceeded⟩
      · simp [bind, Except.bind, fine]
      · simpa [bind, Except.bind, exceeded] using (other violation).symm

/-- Two runs on one file tree whose settings agree but for the limits save the same files, print the same but for
the time, and fail alike unless a limit is exceeded. -/
theorem limits_never_change_reports {machine : Machine} {arguments : CommandLine.Arguments}
    {settings others : Settings} {config : Option String} {environment : List (String × String)} {now : String}
    (loaded : settingsFor machine arguments = .ok settings)
    (loadedAlso : settingsFor { machine with environment, now } { arguments with config } = .ok others)
    (same : settings.withoutLimits = others.withoutLimits) :
    let first := result machine arguments
    let second := result { machine with environment, now } { arguments with config }
    second.2.files = first.2.files ∧
      second.2.printed = (result { machine with now } arguments).2.printed ∧
      ∀ failure, (∀ violation, failure ≠ .threshold violation) →
        (first.1 = .error failure ↔ second.1 = .error failure) := by
  have loadedThen : settingsFor { machine with now } arguments = .ok settings := loaded
  have format : others.format = settings.format := by
    change others.withoutLimits.format = settings.withoutLimits.format
    rw [same]
  have saving (artifacts : List Artifact) (files : FileSystem) :
      saved others artifacts files = saved settings artifacts files := by
    rw [← saved_withoutLimits others, ← same, saved_withoutLimits]
  have finding : discover { machine with environment, now } others arguments.path arguments.task =
      discover machine settings arguments.path arguments.task := by
    rw [discover_elsewhere, ← discover_withoutLimits machine others, ← same, discover_withoutLimits]
  have findingThen : discover { machine with now } settings arguments.path arguments.task =
      discover machine settings arguments.path arguments.task := discover_elsewhere machine settings _ _ _ now
  simp only [result_eq loaded, result_eq loadedAlso, result_eq loadedThen, finding, findingThen]
  cases found : (discover machine settings arguments.path arguments.task).run
      { files := machine.files, printed := "" } with
  | mk outcome session =>
      cases outcome with
      | error failure =>
          simp only [run_bind_error found]
          exact ⟨trivial, trivial, fun _ _ => trivial⟩
      | ok finding =>
          simp only [run_bind_ok found, run_report, saving, format]
          -- Both reports break off, or neither does: the limits have no part in what is printed.
          cases finding.breaksOff settings.format with
          | true =>
              simp only [if_true]
              exact ⟨trivial, trivial, fun _ _ => trivial⟩
          | false =>
              simp only [Bool.false_eq_true, if_false]
              refine ⟨trivial, trivial, fun failure other => ?_⟩
              exact (bind_verdict_eq_error_iff other).trans (bind_verdict_eq_error_iff other).symm

def cyclicMachine : Machine := .holding [
  (["w", "g.dot"], .file "digraph g \x7b\n  \"a\" -> \"b\";\n  \"b\" -> \"a\";\n\x7d\n".toUTF8.toList)]

def cyclesArguments (dot : String) : CommandLine.Arguments where
  path := "."
  format := some .json
  config := none
  outputDir := some "out"
  verbose := false
  task := .cycles (some dot)

def strictMachine : Machine :=
  { cyclicMachine with environment := [("JSCA_CYCLES__BREAK_ON_CYCLE", "true")] }

/-- On a graph with a cycle, and on one that is not there. -/
theorem strictMachine_changes_no_report :
    let lenient : Settings := { Settings.default with format := .json, outputDir := some "out" }
    (∀ dot, settingsFor cyclicMachine (cyclesArguments dot) = .ok lenient ∧
      settingsFor strictMachine (cyclesArguments dot) = .ok { lenient with breakOnCycle := true }) ∧
      (result cyclicMachine (cyclesArguments "g.dot")).1 = .ok () ∧
      (result strictMachine (cyclesArguments "g.dot")).2.files =
        (result cyclicMachine (cyclesArguments "g.dot")).2.files ∧
      (result strictMachine (cyclesArguments "g.dot")).2.printed =
        (result cyclicMachine (cyclesArguments "g.dot")).2.printed ∧
      (result strictMachine (cyclesArguments "h.dot")).1 = .error (.fileNotFound "h.dot") := by
  intro lenient
  have loaded (dot : String) : settingsFor cyclicMachine (cyclesArguments dot) = .ok lenient := by
    change settingsFor cyclicMachine (cyclesArguments "") = .ok lenient
    decide +kernel
  have loadedAlso (dot : String) :
      settingsFor strictMachine (cyclesArguments dot) = .ok { lenient with breakOnCycle := true } := by
    change settingsFor strictMachine (cyclesArguments "") = .ok { lenient with breakOnCycle := true }
    decide +kernel
  obtain ⟨files, printed, _⟩ := limits_never_change_reports (loaded "g.dot") (loadedAlso "g.dot") rfl
  obtain ⟨_, _, failures⟩ := limits_never_change_reports (loaded "h.dot") (loadedAlso "h.dot") rfl
  refine ⟨fun dot => ⟨loaded dot, loadedAlso dot⟩, by decide +kernel, files, printed, ?_⟩
  refine (failures _ ?_).mp (by decide +kernel)
  intro violation same
  cases same

end Run

end ClassMetrics
