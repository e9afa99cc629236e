import ClassMetrics.Cohesion.MethodGraph
import ClassMetrics.Coupling.Analysis

namespace ClassMetrics

structure CohesionSummary where
  classCount : Nat
  averageLcom : Float
  maxLcom : Nat
  /-- Classes that fall into more than one part. -/
  lowCohesionCount : Nat
deriving Repr

structure CohesionAnalysis where
  /-- Least cohesive first, then in string order. -/
  classes : List ClassCohesion
  summary : CohesionSummary
deriving Repr

namespace Cohesion

/-- Module descriptors and classes without a name are passed over. -/
def isMeasured (classFile : ClassFile) : Bool :=
  !classFile.isModule && classFile.name != ""

/-- Class by class, in the order given. -/
def ofClasses (classFiles : List ClassFile) : List ClassCohesion :=
  (classFiles.filter isMeasured).map ofClass

/-- LCOM by class, in string order; of classes with one key the last one counts. -/
def scores (entries : List ClassCohesion) : List (String × Nat) :=
  Keyed.ofList (entries.map fun entry => (entry.className, entry.lcom))

def precedes (first second : ClassCohesion) : Bool :=
  second.lcom < first.lcom || (first.lcom == second.lcom && first.className ≤ second.className)

end Cohesion

namespace CohesionAnalysis

def summarize (classes : List ClassCohesion) : CohesionSummary :=
  { classCount := classes.length
    averageLcom := average (classes.map (·.lcom))
    maxLcom := maximum (classes.map (·.lcom))
    lowCohesionCount := classes.countP fun entry => 1 < entry.lcom }

def ofClasses (classFiles : List ClassFile) : CohesionAnalysis :=
  let classes := (Cohesion.ofClasses classFiles).mergeSort Cohesion.precedes
  { classes, summary := summarize classes }

def scores (analysis : CohesionAnalysis) : List (String × Nat) :=
  Cohesion.scores analysis.classes

def violation? (limit : Nat) (analysis : CohesionAnalysis) : Option Violation :=
  if 0 < limit ∧ limit < analysis.summary.maxLcom then
    let worst := (analysis.classes.head?.map (·.className)).getD ""
    some (.lcom analysis.summary.maxLcom worst limit)
  else
    none

def classValue (entry : ClassCohesion) : Value :=
  .object [
    ("class", .text entry.className),
    ("lcom", .nat entry.lcom),
    ("methods", .texts entry.methods)]

def summaryValue (summary : CohesionSummary) : Value :=
  .object [
    ("total_classes", .nat summary.classCount),
    ("avg_lcom", .float summary.averageLcom),
    ("max_lcom", .nat summary.maxLcom),
    ("low_cohesion_count", .nat summary.lowCohesionCount)]

def fields (analysis : CohesionAnalysis) : List Value.Field := [
  ("classes", .list (analysis.classes.map classValue)),
  ("summary", summaryValue analysis.summary)]

/-- The result as it is reported, with the time at which it was made. -/
def toValue (analysis : CohesionAnalysis) (generatedAt : String) : Value :=
  .object (("generated_at", .text generatedAt) :: analysis.fields)

end CohesionAnalysis

end ClassMetrics
