import ClassMetrics.Dependency.Cycle
import ClassMetrics.Dependency.Ordering
import ClassMetrics.Value.Basic
import ClassMetrics.Violation

namespace ClassMetrics

structure CycleAnalysis where
  hasCycles : Bool
  /-- Arcs whose removal leaves no cycle; none are sought where there is no cycle. -/
  feedbackArcs : List Arc
  graph : DependencyGraph
deriving Repr

namespace CycleAnalysis

def ofGraph (graph : DependencyGraph) : CycleAnalysis :=
  let hasCycles := graph.hasCycle
  { hasCycles, feedbackArcs := if hasCycles then graph.feedbackArcs else [], graph }

def feedbackArcCount (analysis : CycleAnalysis) : Nat := analysis.feedbackArcs.length

def violation? (breakOnCycle : Bool) (analysis : CycleAnalysis) : Option Violation :=
  if breakOnCycle && analysis.hasCycles then some (.cycles analysis.feedbackArcs.length) else none

def arcValue (arc : Arc) : Value :=
  .object [("source", .text arc.source), ("target", .text arc.target)]

def fields (analysis : CycleAnalysis) : List Value.Field := [
  ("has_cycles", .bool analysis.hasCycles),
  ("feedback_arc_set", .list (analysis.feedbackArcs.map arcValue)),
  ("summary", .object [
    ("total_classes", .nat analysis.graph.vertexCount),
    ("total_dependencies", .nat analysis.graph.arcCount),
    ("feedback_arc_count", .nat analysis.feedbackArcCount)])]

/-- The result as it is reported, with the time at which it was made. -/
def toValue (analysis : CycleAnalysis) (generatedAt : String) : Value :=
  .object (("generated_at", .text generatedAt) :: analysis.fields)

end CycleAnalysis

end ClassMetrics
