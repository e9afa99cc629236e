import ClassMetrics.Cohesion.Analysis
import ClassMetrics.Dependency.Analysis
import ClassMetrics.Dependency.Source
import ClassMetrics.Files.ClassFiles
import ClassMetrics.Settings.Basic

namespace ClassMetrics

inductive Analyzer where
  | coupling
  | cohesion
  | cycles
deriving Repr, DecidableEq

def Analyzer.name : Analyzer → String
  | .coupling => "coupling"
  | .cohesion => "cohesion"
  | .cycles => "cycles"

def Analyzer.description : Analyzer → String
  | .coupling => "Build the class coupling multigraph and compute CBO and pair CBO"
  | .cohesion => "Compute LCOM from per-class method graphs"
  | .cycles => "Detect dependency cycles and suggest a feedback arc set"

def CouplingAnalysis.ofClasses (platform : Platform) (classFiles : List ClassFile) :
    Except Failure CouplingAnalysis :=
  match Coupling.graphOf platform classFiles with
  | .error fault => .error (.method fault)
  | .ok graph => .ok (.ofGraph graph)

/-- Coupling and cohesion of the same classes. -/
structure CombinedAnalysis where
  coupling : CouplingAnalysis
  cohesion : CohesionAnalysis

namespace CombinedAnalysis

def ofClasses (platform : Platform) (classFiles : List ClassFile) : Except Failure CombinedAnalysis := do
  return { coupling := ← CouplingAnalysis.ofClasses platform classFiles, cohesion := .ofClasses classFiles }

def toValue (analysis : CombinedAnalysis) (generatedAt : String) : Value :=
  .object [
    ("coupling", analysis.coupling.toValue generatedAt),
    ("cohesion", analysis.cohesion.toValue generatedAt)]

end CombinedAnalysis

namespace DependencyTool

/-- The program under settings. Its files go to `dotDir` if given, else below the output directory, else to a
directory for passing use. -/
def ofSettings (settings : Settings) (classesDir scratchDir : String) (dotDir : Option String) :
    DependencyTool where
  program := settings.dependencyTool
  classesDir := classesDir
  dotDir := (dotDir <|> settings.outputDir.map fun output => Path.join output "jdeps").getD scratchDir

end DependencyTool

end ClassMetrics
