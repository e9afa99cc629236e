import ClassMetrics.Analyzer
import ClassMetrics.Artifact
import ClassMetrics.CommandLine.Arguments
import ClassMetrics.Settings.Load

namespace ClassMetrics

/-!
A whole run, from words of a command line to what is printed, which files are left and how the run ends. All
that a run can see is in a `Machine`. Main definition: `Run.execute`.
-/

structure Machine where
  files : FileSystem
  environment : List (String × String)
  tools : Tools
  /-- A directory for passing use. -/
  scratchDir : String
  /-- The time of the run, as it is reported. -/
  now : String

/-- What a run has done so far. It stays done if the run fails later. -/
structure Session where
  files : FileSystem
  printed : String
deriving Repr, DecidableEq

abbrev RunM := ExceptT Failure (StateM Session)

namespace Run

def lift {α : Type} : Except Failure α → RunM α
  | .ok result => pure result
  | .error failure => throw failure

def print (text : String) : RunM Unit :=
  modify fun session => { session with printed := session.printed ++ text }

/-- Prints a value. The run stops where writing breaks off. -/
def present (format : Format) (value : Value) : RunM Unit := do
  print (format.render value)
  if format.breaksOff value then throw .overwideColumn

/-- Result files go to the output directory, if there is one. -/
def save (settings : Settings) (artifacts : List Artifact) : RunM Unit :=
  match settings.outputDir with
  | none => pure ()
  | some directory => do
      let (files, written) := Artifact.writeAll directory (← get).files artifacts
      modify fun session => { session with files }
      let _ ← lift written

def check : Option Violation → RunM Unit
  | none => pure ()
  | some violation => throw (.threshold violation)

/-- Prints a result, saves its files and holds it against its limits, in this order. -/
def conclude (settings : Settings) (value : Value) (artifacts : List Artifact)
    (violations : List (Option Violation)) : RunM Unit := do
  present settings.format value
  save settings artifacts
  violations.forM check

/-- Settings of the machine, with those of the command line over them. -/
def settingsFor (machine : Machine) (arguments : CommandLine.Arguments) : Except Failure Settings := do
  let loaded ← match arguments.config with
    | some path => Settings.ofFile machine.files machine.environment path
    | none => Settings.ofDirectory machine.files machine.environment arguments.path
  return {
    loaded with
    outputDir := arguments.outputDir <|> loaded.outputDir
    format := arguments.format.getD loaded.format }

def prepareOutput (settings : Settings) : RunM Unit :=
  match settings.outputDir with
  | none => pure ()
  | some directory => do
      match (← get).files.createDirectories directory with
      | .error reason => throw (.io reason)
      | .ok files => modify fun session => { session with files }

def classFilesFor (settings : Settings) (path : String) : RunM ClassFiles := do
  lift (ClassFiles.ofPath (← get).files settings.exclude path)

def readClasses (set : ClassFiles) : RunM (List ClassFile) := do
  lift (set.read (← get).files).outcome

def coupling (machine : Machine) (settings : Settings) (path : String) : RunM Unit := do
  let set ← classFilesFor settings path
  let platform ← lift settings.platform?
  let analysis ← lift (CouplingAnalysis.ofClasses platform (← readClasses set))
  conclude settings (analysis.toValue machine.now) (Artifact.ofCoupling analysis)
    [analysis.violation? settings.couplingLimits]

def cohesion (machine : Machine) (settings : Settings) (path : String) : RunM Unit := do
  let set ← classFilesFor settings path
  let analysis := CohesionAnalysis.ofClasses (← readClasses set)
  conclude settings (analysis.toValue machine.now) (Artifact.ofCohesion analysis)
    [analysis.violation? settings.lcomLimit]

/-- The graph of a DOT file, or of the classes below a path as the tool lists them. -/
def dependencies (machine : Machine) (settings : Settings) (path : String) :
    Option String → RunM DependencyGraph
  | some dot => do lift (DependencyGraph.ofDotFile (← get).files dot)
  | none => do
      let set ← classFilesFor settings path
      let tool := DependencyTool.ofSettings settings set.root.path machine.scratchDir none
      let (files, graph) := tool.load machine.tools (← get).files
      modify fun session => { session with files }
      lift graph

def cycles (machine : Machine) (settings : Settings) (path : String) (dot : Option String) : RunM Unit := do
  let analysis := CycleAnalysis.ofGraph (← dependencies machine settings path dot)
  conclude settings (analysis.toValue machine.now) (Artifact.ofCycles analysis)
    [analysis.violation? settings.breakOnCycle]

def all (machine : Machine) (settings : Settings) (path : String) : RunM Unit := do
  let set ← classFilesFor settings path
  let platform ← lift settings.platform?
  let analysis ← lift (CombinedAnalysis.ofClasses platform (← readClasses set))
  conclude settings (analysis.toValue machine.now)
    (Artifact.ofCoupling analysis.coupling ++ Artifact.ofCohesion analysis.cohesion)
    [analysis.coupling.violation? settings.couplingLimits,
     analysis.cohesion.violation? settings.lcomLimit]

def perform (machine : Machine) (arguments : CommandLine.Arguments) : RunM Unit := do
  let settings ← lift (settingsFor machine arguments)
  prepareOutput settings
  match arguments.task with
  | .coupling => coupling machine settings arguments.path
  | .cohesion => cohesion machine settings arguments.path
  | .cycles dot => cycles machine settings arguments.path dot
  | .all => all machine settings arguments.path

/-- How a run ends. -/
inductive Ending where
  | finished
  | failed (failure : Failure)
  | misused (reason : CommandLine.UsageError)
deriving Repr, DecidableEq

/-- Asking for help or the version is no misuse. -/
def Ending.code : Ending → Nat
  | .finished => 0
  | .failed failure => if failure.stops then 101 else 1
  | .misused .helpRequested => 0
  | .misused .versionRequested => 0
  | .misused _ => 2

def versionText : String := "jsca 0.1.0\n"

def execute (machine : Machine) (words : List String) : Ending × Session :=
  match CommandLine.parse words with
  | .error reason =>
      let printed := if reason = .versionRequested then versionText else ""
      (.misused reason, { files := machine.files, printed })
  | .ok arguments =>
      match (perform machine arguments).run { files := machine.files, printed := "" } with
      | (.ok (), session) => (.finished, session)
      | (.error failure, session) => (.failed failure, session)

end Run

end ClassMetrics
