import ClassMetrics.Dot.Read
import ClassMetrics.Proofs.Dependency.Changes

namespace ClassMetrics.DependencyGraph

/-- A graph that adding and removing, a list of arcs or a DOT text can give. -/
inductive Reachable : DependencyGraph → Prop where
  | empty : Reachable empty
  | ensure {graph : DependencyGraph} (name : String) :
      Reachable graph → Reachable (graph.ensure name)
  | connect {graph : DependencyGraph} (source target : String) :
      Reachable graph → Reachable (graph.connect source target)
  | remove {graph : DependencyGraph} (name : String) :
      Reachable graph → Reachable (graph.remove name)
  | ofArcs (pairs : List (String × String)) : Reachable (ofArcs pairs)
  | read (text : String) : Reachable (Dot.read text).1

variable {graph : DependencyGraph}

protected theorem WellFormed.empty : empty.WellFormed where
  known _ _ found := by cases found
  apart _ _ found := by cases found
  single _ _ _ found := by cases found

theorem WellFormed.foldl_connect (wellFormed : graph.WellFormed) (pairs : List (String × String)) :
    (pairs.foldl (fun graph pair => graph.connect pair.1 pair.2) graph).WellFormed := by
  induction pairs generalizing graph with
  | nil => exact wellFormed
  | cons pair rest ih => exact ih (wellFormed.connect pair.1 pair.2)

/-- A line of a DOT text adds a name, adds an arc or leaves the graph as it is. -/
theorem WellFormed.applyLine (wellFormed : graph.WellFormed) (line : List Char) :
    (Dot.applyLine graph line).1.WellFormed := by
  unfold Dot.applyLine
  split
  · exact wellFormed
  · split
    · exact wellFormed.connect _ _
    · exact wellFormed
  · split
    · exact wellFormed.ensure _
    · exact wellFormed
  · exact wellFormed

theorem WellFormed.readLines (wellFormed : graph.WellFormed) (number : Nat) (lines : List (List Char)) :
    (Dot.readLines graph number lines).1.WellFormed := by
  induction lines generalizing graph number with
  | nil => exact wellFormed
  | cons line rest ih => exact ih (wellFormed.applyLine _) (number + 1)

theorem Reachable.wellFormed (reachable : graph.Reachable) : graph.WellFormed := by
  induction reachable with
  | empty => exact .empty
  | ensure name _ ih => exact ih.ensure name
  | connect source target _ ih => exact ih.connect source target
  | remove name _ ih => exact ih.remove name
  | ofArcs pairs => exact WellFormed.empty.foldl_connect pairs
  | read text => exact WellFormed.empty.readLines 1 _

/-- A circle of three names of which one is removed; the arc added then takes a freed slot and closes a
circle of two. -/
def closedAgain : DependencyGraph :=
  ((ofArcs [("a", "b"), ("b", "c"), ("c", "a")]).remove "b").connect "a" "c"

theorem closedAgain_reachable : closedAgain.Reachable :=
  ((Reachable.ofArcs _).remove "b").connect "a" "c"

end ClassMetrics.DependencyGraph
