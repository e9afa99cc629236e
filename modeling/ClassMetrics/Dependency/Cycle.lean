import ClassMetrics.Dependency.Graph

namespace ClassMetrics.DependencyGraph

/-- A vertex on the path and its successors not yet looked at. -/
abbrev Frame := String × List String

/-- Steps that the path still allows without a new vertex. -/
def pendingSteps : List Frame → Nat
  | [] => 0
  | frame :: outer => frame.2.length + 1 + pendingSteps outer

def searchCycle (graph : DependencyGraph) (unseen : List String) (path : List Frame) : Bool :=
  match path with
  | [] =>
      match unseen with
      | [] => false
      | root :: rest => searchCycle graph rest [(root, graph.successors root)]
  | (_, []) :: outer => searchCycle graph unseen outer
  | (vertex, target :: targets) :: outer =>
      if _ : target ∈ unseen then
        searchCycle graph (unseen.erase target)
          ((target, graph.successors target) :: (vertex, targets) :: outer)
      else if target = vertex ∨ target ∈ outer.map (·.1) then
        true
      else
        searchCycle graph unseen ((vertex, targets) :: outer)
termination_by (unseen.length, pendingSteps path)
decreasing_by
  · exact Prod.Lex.left _ _ (Nat.lt_succ_self _)
  · refine Prod.Lex.right _ ?_
    simp only [pendingSteps]
    omega
  · refine Prod.Lex.left _ _ ?_
    have present := ‹target ∈ unseen›
    have nonempty := List.length_pos_of_mem present
    rw [List.length_erase_of_mem present]
    omega
  · refine Prod.Lex.right _ ?_
    simp only [pendingSteps, List.length_cons]
    omega

def hasCycle (graph : DependencyGraph) : Bool :=
  graph.searchCycle graph.vertices []

end ClassMetrics.DependencyGraph
