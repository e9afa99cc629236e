import ClassMetrics.Dependency.Analysis
import ClassMetrics.Proofs.Dependency.CycleSearch
import ClassMetrics.Proofs.Dependency.FeedbackArcs

namespace ClassMetrics.DependencyGraph

variable {graph : DependencyGraph} {order : List String}

theorem Arranged.no_pointsBack (arranged : Arranged graph order) (wellFormed : graph.WellFormed)
    (acyclic : ¬ Cyclic graph.arcs) : ∀ arc ∈ graph.arcs, ¬ arc.PointsBack order := by
  intro arc member back
  apply acyclic
  apply arranged.pointsBack_induction (motive := fun graph _ => Cyclic graph.arcs) _ _ wellFormed arc member back
  · intro graph arc formed _ noSource _ listed
    obtain ⟨name, closed, _⟩ := exists_cycle_before formed noSource (formed.target_mem arc listed)
    exact ⟨name, closed⟩
  · intro graph name arc formed cyclic
    exact cyclic.mono (arcs_remove_subset formed name)

theorem feedbackArcs_eq_nil_iff (wellFormed : graph.WellFormed) :
    graph.feedbackArcs = [] ↔ ¬ Cyclic graph.arcs := by
  constructor
  · intro none
    simpa [none] using not_cyclic_without_feedbackArcs wellFormed
  · intro acyclic
    apply List.eq_nil_iff_forall_not_mem.mpr
    intro arc feedback
    obtain ⟨member, back⟩ := (mem_feedbackArcs wellFormed).mp feedback
    exact (ordering_arranged wellFormed).no_pointsBack wellFormed acyclic arc member back

/-- The search, the walks and the feedback arcs agree on whether there is a cycle, so an analysis loses
nothing when it seeks feedback arcs only after the search has found one. -/
theorem cycle_verdicts_agree (reachable : graph.Reachable) :
    (graph.hasCycle = true ↔ Cyclic graph.arcs) ∧
      (Cyclic graph.arcs ↔ graph.feedbackArcs ≠ []) ∧
      (CycleAnalysis.ofGraph graph).feedbackArcs = graph.feedbackArcs ∧
      ((CycleAnalysis.ofGraph graph).feedbackArcCount = 0 ↔
        (CycleAnalysis.ofGraph graph).hasCycles = false) := by
  have wellFormed := reachable.wellFormed
  have search := hasCycle_iff wellFormed
  have arcs : Cyclic graph.arcs ↔ graph.feedbackArcs ≠ [] := by
    rw [Ne, feedbackArcs_eq_nil_iff wellFormed, not_not]
  have same : (CycleAnalysis.ofGraph graph).feedbackArcs = graph.feedbackArcs := by
    simp only [CycleAnalysis.ofGraph]
    split
    · rfl
    · rename_i noCycle
      exact ((feedbackArcs_eq_nil_iff wellFormed).mpr (mt search.mpr noCycle)).symm
  refine ⟨search, arcs, same, ?_⟩
  rw [CycleAnalysis.feedbackArcCount, same, List.length_eq_zero_iff,
    feedbackArcs_eq_nil_iff wellFormed, ← search, Bool.not_eq_true]
  rfl

theorem closedAgain_verdicts_agree :
    closedAgain.Reachable ∧ closedAgain.arcs = [⟨"a", "c"⟩, ⟨"c", "a"⟩] ∧
      (closedAgain.hasCycle = true ↔ Cyclic closedAgain.arcs) ∧
      (Cyclic closedAgain.arcs ↔ closedAgain.feedbackArcs ≠ []) ∧
      (CycleAnalysis.ofGraph closedAgain).feedbackArcs = closedAgain.feedbackArcs ∧
      ((CycleAnalysis.ofGraph closedAgain).feedbackArcCount = 0 ↔
        (CycleAnalysis.ofGraph closedAgain).hasCycles = false) :=
  ⟨closedAgain_reachable, by decide, cycle_verdicts_agree closedAgain_reachable⟩

end ClassMetrics.DependencyGraph
