import ClassMetrics.Coupling.Analysis
import ClassMetrics.Failure
import ClassMetrics.Report.Format

namespace ClassMetrics

structure Settings where
  /-- Patterns of class files to pass over. -/
  exclude : List String
  platform : Platform
  couplingLimits : CouplingLimits
  lcomLimit : Nat
  breakOnCycle : Bool
  /-- The program that lists the dependencies of compiled classes. -/
  dependencyTool : String
  format : Format
  /-- Where result files go; without it none are written. -/
  outputDir : Option String
deriving Repr, DecidableEq

namespace Settings

def default : Settings where
  exclude := []
  platform := { starts := ["java/"], root := "java/lang/Object" }
  couplingLimits := { perClass := 0, perPair := 0 }
  lcomLimit := 0
  breakOnCycle := false
  dependencyTool := "jdeps"
  format := .text
  outputDir := none

/-- The platform that a coupling analysis goes by. -/
def platform? (settings : Settings) : Except Failure Platform :=
  if settings.platform.starts.contains "" then .error .emptyPlatformStart else .ok settings.platform

end Settings

end ClassMetrics
