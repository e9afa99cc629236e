import ClassMetrics.Coupling.Extraction
import ClassMetrics.Data.Lists
import ClassMetrics.Value.Basic
import ClassMetrics.Violation

namespace ClassMetrics

structure ClassCoupling where
  className : String
  cbo : Nat
  inDegree : Nat
  outDegree : Nat
deriving Repr, DecidableEq

structure CouplingSummary where
  classCount : Nat
  relationCount : Nat
  averageCbo : Float
  maxCbo : Nat
  maxPairCbo : Nat
  /-- Pairs with at least one relation. -/
  coupledPairs : Nat
  /-- Kinds that occur, with the number of their edges. -/
  relationsByKind : List (RelationKind × Nat)
deriving Repr

structure CouplingAnalysis where
  /-- Most coupled first, then in string order. -/
  classes : List ClassCoupling
  pairs : List PairScore
  summary : CouplingSummary
  graph : CouplingGraph
deriving Repr

structure CouplingLimits where
  perClass : Nat
  perPair : Nat
deriving Repr, DecidableEq

/-- The greatest of some numbers, zero if there are none. -/
def maximum (numbers : List Nat) : Nat :=
  numbers.foldl max 0

/-- Zero if there is nothing to average. -/
def average (numbers : List Nat) : Float :=
  if numbers.isEmpty then 0.0 else Float.ofNat (numbers.foldl (· + ·) 0) / Float.ofNat numbers.length

namespace ClassCoupling

def ofGraph (graph : CouplingGraph) (className : String) : ClassCoupling :=
  { className
    cbo := graph.cbo className
    inDegree := graph.inDegree className
    outDegree := graph.outDegree className }

/-- Whether an entry may stand before another. -/
def precedes (first second : ClassCoupling) : Bool :=
  second.cbo < first.cbo || (first.cbo == second.cbo && first.className ≤ second.className)

end ClassCoupling

namespace CouplingAnalysis

def summarize (graph : CouplingGraph) (classes : List ClassCoupling) (pairs : List PairScore) :
    CouplingSummary :=
  { classCount := classes.length
    relationCount := graph.edgeCount
    averageCbo := average (classes.map (·.cbo))
    maxCbo := maximum (classes.map (·.cbo))
    maxPairCbo := maximum (pairs.map (·.score))
    coupledPairs := pairs.countP fun pair => 0 < pair.score
    relationsByKind :=
      (RelationKind.all.map fun kind => (kind, graph.countByKind kind)).filter fun entry => 0 < entry.2 }

def ofGraph (graph : CouplingGraph) : CouplingAnalysis :=
  let classes := (graph.vertices.toList.map (ClassCoupling.ofGraph graph)).mergeSort ClassCoupling.precedes
  let pairs := graph.pairScores
  { classes, pairs, summary := summarize graph classes pairs, graph }

/-- CBO by class, in string order. -/
def scores (analysis : CouplingAnalysis) : List (String × Nat) :=
  Keyed.ofList (analysis.classes.map fun entry => (entry.className, entry.cbo))

/-- Of the pairs with the greatest score, the last. -/
def worstPair? (analysis : CouplingAnalysis) : Option PairScore :=
  analysis.pairs.foldl (fun worst pair =>
    match worst with
    | none => some pair
    | some held => if held.score ≤ pair.score then some pair else some held) none

/-- The limit on classes is looked at first. -/
def violation? (limits : CouplingLimits) (analysis : CouplingAnalysis) : Option Violation :=
  if 0 < limits.perClass ∧ limits.perClass < analysis.summary.maxCbo then
    let worst := (analysis.classes.head?.map (·.className)).getD ""
    some (.cbo analysis.summary.maxCbo worst limits.perClass)
  else if 0 < limits.perPair ∧ limits.perPair < analysis.summary.maxPairCbo then
    analysis.worstPair?.map fun pair =>
      .pairCbo analysis.summary.maxPairCbo pair.first pair.second limits.perPair
  else
    none

def classValue (entry : ClassCoupling) : Value :=
  .object [
    ("class", .text entry.className),
    ("cbo", .nat entry.cbo),
    ("in_degree", .nat entry.inDegree),
    ("out_degree", .nat entry.outDegree)]

def pairValue (pair : PairScore) : Value :=
  .object [("first", .text pair.first), ("second", .text pair.second), ("score", .nat pair.score)]

def summaryValue (summary : CouplingSummary) : Value :=
  .object [
    ("total_classes", .nat summary.classCount),
    ("total_relations", .nat summary.relationCount),
    ("avg_cbo", .float summary.averageCbo),
    ("max_cbo", .nat summary.maxCbo),
    ("max_pair_cbo", .nat summary.maxPairCbo),
    ("coupled_pairs", .nat summary.coupledPairs),
    ("relations_by_kind",
      .object (summary.relationsByKind.map fun (kind, count) => (kind.name, .nat count)))]

def fields (analysis : CouplingAnalysis) : List Value.Field := [
  ("classes", .list (analysis.classes.map classValue)),
  ("pairs", .list (analysis.pairs.map pairValue)),
  ("summary", summaryValue analysis.summary)]

/-- The result as it is reported, with the time at which it was made. -/
def toValue (analysis : CouplingAnalysis) (generatedAt : String) : Value :=
  .object (("generated_at", .text generatedAt) :: analysis.fields)

end CouplingAnalysis

end ClassMetrics
