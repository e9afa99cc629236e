import ClassMetrics.Proofs.Run.Reporting

namespace ClassMetrics

/-!
The combined task does what the tasks for coupling and for cohesion do one by one: it prints their two values as one,
leaves the files that either leaves, and ends as the first of them that exceeds a limit.
-/

/-- The machine at another time. -/
def Machine.at (machine : Machine) (now : String) : Machine := { machine with now }

namespace Run

section Reports

variable {machine : Machine} {settings : Settings} {files : FileSystem} {path : String}
  {arguments : CommandLine.Arguments}

/-- A run under the settings into a directory that is empty once the run has made sure of it. -/
structure RunsInto (machine : Machine) (settings : Settings) (files : FileSystem) (path : String)
    (task : CommandLine.Task) (arguments : CommandLine.Arguments) (directory : String) (output : Location) : Prop where
  path : arguments.path = path
  task : arguments.task = task
  loaded : settingsFor machine arguments = .ok { settings with outputDir := some directory }
  made : prepared { settings with outputDir := some directory } machine.files = .ok files
  leads : files.Leads directory output
  empty : ∀ rest, rest ≠ [] → files.entry? (output ++ rest) = none

variable {task : CommandLine.Task} {directory : String} {output : Location} {finding : Finding}

/-- What a run leaves when all of its files are saved. -/
def reportOf (settings : Settings) (files : FileSystem) (output : Location) (finding : Finding) (now : String) :
    Except Failure Unit × Session :=
  (verdict (finding.violations settings), {
    files := Artifact.deposited output files finding.artifacts
    printed := settings.format.render (finding.value now) })

theorem investigate_elsewhere (reads : ∀ dot, task ≠ .cycles dot) (now : String) (outputDir : Option String) :
    investigate (machine.at now) { settings with outputDir } path task = investigate machine settings path task := by
  cases task with
  | coupling | cohesion | all => rfl
  | cycles dot => exact absurd rfl (reads dot)

theorem violations_elsewhere (finding : Finding) (outputDir : Option String) :
    finding.violations { settings with outputDir } = finding.violations settings := by
  cases finding <;> rfl

namespace RunsInto

variable (into : RunsInto machine settings files path task arguments directory output)

include into

theorem loadedAt (now : String) :
    settingsFor (machine.at now) arguments = .ok { settings with outputDir := some directory } :=
  into.loaded

theorem madeAt (now : String) :
    prepared { settings with outputDir := some directory } (machine.at now).files = .ok files :=
  into.made

theorem clean : '\x00' ∉ directory.toList := by
  rcases prepared_eq_ok_iff.mp into.made with ⟨unnamed, _⟩ | ⟨_, named, created⟩
  · cases unnamed
  · cases named
    intro nul
    rw [FileSystem.createDirectories, if_pos (by simpa using nul)] at created
    cases created

theorem gains : machine.files.Gains files := by
  rcases prepared_eq_ok_iff.mp into.made with ⟨unnamed, _⟩ | ⟨_, _, created⟩
  · cases unnamed
  · exact FileSystem.gains_createDirectories created

theorem free (name : String) : files.holdsDirectory (output ++ [name]) = false := by
  rw [FileSystem.holdsDirectory, into.empty [name] (by simp)]
  rfl

theorem result_of_fits (reads : ∀ dot, task ≠ .cycles dot)
    (found : (investigate machine settings path task).run ⟨files, ""⟩ = (.ok finding, ⟨files, ""⟩))
    (plain : ∀ artifact ∈ finding.artifacts, Path.PlainName artifact.name)
    (whole : finding.breaksOff settings.format = false)
    (fits : ∀ artifact ∈ finding.artifacts, Path.Fits artifact.name) (now : String) :
    result (machine.at now) arguments = reportOf settings files output finding now := by
  have written := Artifact.writeAll_of_fits into.clean into.leads plain fits into.free
  rw [← investigate_elsewhere reads now (some directory), ← into.path, ← into.task] at found
  rw [result_of_found (into.loadedAt now) (into.madeAt now) found whole]
  simp only [saved, written, violations_elsewhere]
  rfl

theorem fits_of_reported (reads : ∀ dot, task ≠ .cycles dot)
    (found : (investigate machine settings path task).run ⟨files, ""⟩ = (.ok finding, ⟨files, ""⟩))
    (plain : ∀ artifact ∈ finding.artifacts, Path.PlainName artifact.name) {now : String}
    (reported : Reported (result (machine.at now) arguments).1) :
    finding.breaksOff settings.format = false ∧ ∀ artifact ∈ finding.artifacts, Path.Fits artifact.name := by
  rw [← investigate_elsewhere reads now (some directory), ← into.path, ← into.task] at found
  have whole := whole_of_reported (into.loadedAt now) (into.madeAt now) found reported
  rw [result_of_found (into.loadedAt now) (into.madeAt now) found whole] at reported
  obtain ⟨names, written, _⟩ := writeAll_of_reported rfl reported
  exact ⟨whole, (Artifact.deposited_of_writeAll into.leads plain written).2⟩

theorem exists_found (reads : ∀ dot, task ≠ .cycles dot) {now : String}
    (reported : Reported (result (machine.at now) arguments).1) :
    ∃ finding session, (investigate machine settings path task).run ⟨files, ""⟩ = (.ok finding, session) := by
  have reads' : ∀ dot, arguments.task ≠ .cycles dot := by rwa [into.task]
  have found := exists_found_of_reported (into.loadedAt now) (into.madeAt now) reads' reported
  rwa [into.path, into.task, investigate_elsewhere reads] at found

end RunsInto

/-- The combined run prints both values as one, leaves the files that either run leaves and ends as the first of them
that exceeds a limit. Output directories may be there or be made by their runs; the path must not need one of them to
lead somewhere, as `out/../classes` does. -/
theorem combined_run_agrees {first second third : CommandLine.Arguments}
    {firstFiles secondFiles thirdFiles : FileSystem} {firstDirectory secondDirectory thirdDirectory : String}
    {firstOutput secondOutput thirdOutput : Location}
    (coupling : RunsInto machine settings firstFiles path .coupling first firstDirectory firstOutput)
    (cohesion : RunsInto machine settings secondFiles path .cohesion second secondDirectory secondOutput)
    (combined : RunsInto machine settings thirdFiles path .all third thirdDirectory thirdOutput)
    (same : firstFiles.isDirectory path = thirdFiles.isDirectory path)
    {firstTime secondTime : String} (thirdTime : String)
    (couplingReported : Reported (result (machine.at firstTime) first).1)
    (cohesionReported : Reported (result (machine.at secondTime) second).1) :
    let one := result (machine.at firstTime) first
    let other := result (machine.at secondTime) second
    let all := result (machine.at thirdTime) third
    (∃ analysis, Analysed thirdFiles settings path analysis ∧
      one.2.printed = settings.format.render (analysis.coupling.toValue firstTime) ∧
      other.2.printed = settings.format.render (analysis.cohesion.toValue secondTime) ∧
      all.2.printed = settings.format.render (.object [
        ("coupling", analysis.coupling.toValue thirdTime), ("cohesion", analysis.cohesion.toValue thirdTime)])) ∧
    (∀ rest, rest ≠ [] →
      all.2.files.entry? (thirdOutput ++ rest) =
        (one.2.files.entry? (firstOutput ++ rest)).or (other.2.files.entry? (secondOutput ++ rest)) ∧
      (one.2.files.entry? (firstOutput ++ rest) = none ∨ other.2.files.entry? (secondOutput ++ rest) = none)) ∧
    (∀ place, (∀ rest, rest ≠ [] → place ≠ thirdOutput ++ rest) →
      all.2.files.entry? place = thirdFiles.entry? place) ∧
    (∀ analysis measured, ∀ artifact ∈ Artifact.ofCoupling analysis, ∀ another ∈ Artifact.ofCohesion measured,
      artifact.name ≠ another.name) ∧
    (∀ violation, all.1 = .error (.threshold violation) ↔
      one.1 = .error (.threshold violation) ∨ one.1 = .ok () ∧ other.1 = .error (.threshold violation)) ∧
    (all.1 = .ok () ↔ one.1 = .ok () ∧ other.1 = .ok ()) := by
  intro one other all
  obtain ⟨found, between, couplingFound⟩ := coupling.exists_found (by simp) couplingReported
  obtain ⟨measured, after, cohesionFound⟩ := cohesion.exists_found (by simp) cohesionReported
  obtain ⟨analysis, analysed, rfl, rfl, rfl, rfl⟩ :=
    analysed_of_found coupling.gains cohesion.gains combined.gains same couplingFound cohesionFound
  have couplingPlain : ∀ artifact ∈ Artifact.ofCoupling analysis.coupling, Path.PlainName artifact.name :=
    fun _ => Artifact.plainName_ofCoupling
  have cohesionPlain : ∀ artifact ∈ Artifact.ofCohesion analysis.cohesion, Path.PlainName artifact.name :=
    fun _ => Artifact.plainName_ofCohesion
  -- That both runs saved their files says all that the combined run needs: no report breaks off, and all names fit.
  obtain ⟨couplingWhole, couplingFits⟩ :=
    coupling.fits_of_reported (by simp) couplingFound couplingPlain couplingReported
  obtain ⟨cohesionWhole, cohesionFits⟩ :=
    cohesion.fits_of_reported (by simp) cohesionFound cohesionPlain cohesionReported
  have ones : one = reportOf settings firstFiles firstOutput (.coupling analysis.coupling) firstTime :=
    coupling.result_of_fits (by simp) couplingFound couplingPlain couplingWhole couplingFits firstTime
  have others : other = reportOf settings secondFiles secondOutput (.cohesion analysis.cohesion) secondTime :=
    cohesion.result_of_fits (by simp) cohesionFound cohesionPlain cohesionWhole cohesionFits secondTime
  have whole : Finding.breaksOff settings.format (.both analysis) = false := by
    rw [Finding.breaksOff, Finding.breaksOff_value_both]
    exact Bool.or_eq_false_iff.mpr ⟨couplingWhole, cohesionWhole⟩
  have alls : all = reportOf settings thirdFiles thirdOutput (.both analysis) thirdTime :=
    combined.result_of_fits (by simp) (run_investigate analysed).2.2
      (List.forall_mem_append.mpr ⟨couplingPlain, cohesionPlain⟩) whole
      (List.forall_mem_append.mpr ⟨couplingFits, cohesionFits⟩) thirdTime
  rw [ones, others, alls]
  refine ⟨⟨analysis, analysed, rfl, rfl, rfl⟩, ?_, ?_, ?_, ?_⟩
  · intro rest inside
    have apart : ∀ artifact ∈ Artifact.ofCoupling analysis.coupling,
        ∀ another ∈ Artifact.ofCohesion analysis.cohesion, artifact.name ≠ another.name :=
      fun _ among _ member => Artifact.name_ne_of_coupling_of_cohesion among member
    simp only [reportOf]
    rw [Artifact.entry?_deposited_below coupling.empty _ inside,
      Artifact.entry?_deposited_below cohesion.empty _ inside,
      Artifact.entry?_deposited_below combined.empty _ inside]
    exact Artifact.heldAt_append apart rest
  · intro place outside
    exact Artifact.entry?_deposited_other (fun name => outside [name] (by simp)) thirdFiles _
  · intro _ _ _ among _ member
    exact Artifact.name_ne_of_coupling_of_cohesion among member
  · simp only [reportOf, Finding.violations]
    cases analysis.coupling.violation? settings.couplingLimits <;>
      cases analysis.cohesion.violation? settings.lcomLimit <;> simp [verdict]

end Reports

/-- A class `p/A` that extends `p/B`. -/
def extendingClass : List UInt8 := [
  0xca, 0xfe, 0xba, 0xbe, 0, 0, 0, 52,
  0, 5, 1, 0, 3, 0x70, 0x2f, 0x41, 7, 0, 1, 1, 0, 3, 0x70, 0x2f, 0x42, 7, 0, 3,
  0, 33, 0, 2, 0, 4, 0, 0, 0, 0, 0, 0, 0, 0]

def extendingMachine : Machine := .holding [
  (["w", "c"], .directory), (["w", "c", "A.class"], .file extendingClass), (["w", "two"], .directory)]

def argumentsInto (task : CommandLine.Task) (directory : String) : CommandLine.Arguments where
  path := "c"
  format := some .json
  config := none
  outputDir := some directory
  verbose := false
  task := task

def jsonSettings : Settings := { Settings.default with format := .json }

def extendingFiles (made : List Location) : FileSystem :=
  { extendingMachine.files with
    entries := extendingMachine.files.entries ++ made.map fun place => (place, .directory) }

theorem extendingMachine_runsInto :
    RunsInto extendingMachine jsonSettings (extendingFiles [["w", "one"]]) "c" .coupling (argumentsInto .coupling "one")
        "one" ["w", "one"] ∧
      RunsInto extendingMachine jsonSettings (extendingFiles []) "c" .cohesion (argumentsInto .cohesion "two/") "two/"
        ["w", "two"] ∧
      RunsInto extendingMachine jsonSettings (extendingFiles [["w", "three"], ["w", "three", "all"]]) "c" .all
        (argumentsInto .all "three/all") "three/all" ["w", "three", "all"] := by
  refine ⟨⟨rfl, rfl, ?_, ?_, ⟨?_, ?_⟩, ?_⟩, ⟨rfl, rfl, ?_, ?_, ⟨?_, ?_⟩, ?_⟩, ⟨rfl, rfl, ?_, ?_, ⟨?_, ?_⟩, ?_⟩⟩
  case refine_5 | refine_10 | refine_15 =>
    intro rest inside
    cases rest with
    | nil => exact absurd rfl inside
    | cons name rest =>
        simp [extendingFiles, extendingMachine, Machine.holding, List.lookup_cons, FileSystem.entry?]
  all_goals decide +kernel

theorem extendingMachine_analysed :
    ∃ analysis, Analysed extendingMachine.files jsonSettings "c" analysis ∧
      analysis.cohesion = .ofClasses [⟨"p/A", some "p/B", 33, [], []⟩] := by
  have collected : ClassFiles.ofPath extendingMachine.files [] "c" = .ok ⟨["w", "c"], [["A.class"]]⟩ := by
    rw [← List.mergeSort_singleton ["A.class"]]
    refine ClassFiles.ofPath_eq_ok_iff.mpr ⟨["w", "c"], [], by decide +kernel, by decide +kernel, rfl, ?_⟩
    congr 2
  have read : (ClassFiles.read ⟨["w", "c"], [["A.class"]]⟩ extendingMachine.files).outcome =
      .ok [⟨"p/A", some "p/B", 33, [], []⟩] :=
    ClassFiles.outcome_of_decodes (.cons ⟨extendingClass, by decide +kernel, by decide +kernel⟩ .nil)
  cases built : Coupling.graphOf jsonSettings.platform [⟨"p/A", some "p/B", 33, [], []⟩] with
  | error fault =>
      have fine : (Coupling.graphOf jsonSettings.platform [⟨"p/A", some "p/B", 33, [], []⟩]).isOk = true := by
        decide +kernel
      rw [built] at fine
      cases fine
  | ok graph =>
      refine ⟨⟨.ofGraph graph, .ofClasses _⟩, ⟨_, _, collected, read, rfl, ?_⟩, rfl⟩
      rw [CombinedAnalysis.ofClasses, CouplingAnalysis.ofClasses, built]
      rfl

/-- One of the output directories is there, and two are made by their runs. -/
theorem extendingMachine_combined_run :
    let one := result (extendingMachine.at "08:00") (argumentsInto .coupling "one")
    let other := result (extendingMachine.at "09:00") (argumentsInto .cohesion "two/")
    let all := result (extendingMachine.at "10:00") (argumentsInto .all "three/all")
    Reported one.1 ∧ Reported other.1 ∧
      (∀ rest, rest ≠ [] →
        all.2.files.entry? (["w", "three", "all"] ++ rest) =
          (one.2.files.entry? (["w", "one"] ++ rest)).or (other.2.files.entry? (["w", "two"] ++ rest)) ∧
        (one.2.files.entry? (["w", "one"] ++ rest) = none ∨ other.2.files.entry? (["w", "two"] ++ rest) = none)) ∧
      (all.1 = .ok () ↔ one.1 = .ok () ∧ other.1 = .ok ()) := by
  intro one other all
  obtain ⟨coupling, cohesion, combined⟩ := extendingMachine_runsInto
  obtain ⟨analysis, analysed, measured⟩ := extendingMachine_analysed
  have couplingReported : Reported one.1 := by
    have analysedThere := analysed.elsewhere (.refl _) coupling.gains (by decide +kernel)
    have fits : ∀ artifact ∈ Artifact.ofCoupling analysis.coupling, Path.Fits artifact.name := by
      have short : ∀ name ∈ Artifact.couplingNames, '\x00' ∉ name.toList ∧ name.utf8ByteSize ≤ longestName := by decide
      exact fun _ member => short _ (Artifact.name_mem_couplingNames member)
    have reports : one = _ := coupling.result_of_fits (by simp) (run_investigate analysedThere).1
      (fun _ => Artifact.plainName_ofCoupling) rfl fits _
    rw [reports]
    exact verdict_cases _
  have cohesionReported : Reported other.1 := by
    have analysedThere := analysed.elsewhere (.refl _) cohesion.gains (by decide +kernel)
    have fits : ∀ artifact ∈ Artifact.ofCohesion analysis.cohesion, Path.Fits artifact.name := by
      intro artifact member
      simp only [measured, Artifact.ofCohesion, List.mem_cons, List.mem_map] at member
      rcases member with rfl | ⟨entry, among, rfl⟩
      · exact ⟨by decide, by decide⟩
      · have names : (Cohesion.ofClasses [⟨"p/A", some "p/B", 33, [], []⟩]).map (·.className) = ["p/A"] := by
          decide +kernel
        have only : entry.className ∈ ["p/A"] := names ▸ List.mem_map_of_mem (List.mem_mergeSort.mp among)
        have short : Path.Fits (Artifact.methodGraphName "p/A") := ⟨by decide +kernel, by decide +kernel⟩
        rwa [List.mem_singleton.mp only]
    have reports : other = _ := cohesion.result_of_fits (by simp) (run_investigate analysedThere).2.1
      (fun _ => Artifact.plainName_ofCohesion) rfl fits _
    rw [reports]
    exact verdict_cases _
  obtain ⟨_, union, _, _, _, fine⟩ :=
    combined_run_agrees coupling cohesion combined (by decide +kernel) "10:00" couplingReported cohesionReported
  exact ⟨couplingReported, cohesionReported, union, fine⟩

end Run

end ClassMetrics
