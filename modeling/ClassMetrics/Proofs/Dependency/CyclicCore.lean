import ClassMetrics.Proofs.Dependency.Circuit
import ClassMetrics.Proofs.Dependency.Verdicts

namespace ClassMetrics

structure InCore (arcs : List Arc) (name : String) : Prop where
  leads : ∃ cycle, Circuit arcs cycle ∧
    ∃ arc ∈ cycle, Relation.ReflTransGen (Leads arcs) name arc.source
  isLed : ∃ cycle, Circuit arcs cycle ∧
    ∃ arc ∈ cycle, Relation.ReflTransGen (Leads arcs) arc.source name

theorem InCore.mono {fewer more : List Arc} {name : String} (core : InCore fewer name)
    (included : ∀ arc ∈ fewer, arc ∈ more) : InCore more name := by
  obtain ⟨⟨cycle, circuit, arc, member, walk⟩, ⟨earlier, round, entry, listed, path⟩⟩ := core
  exact ⟨⟨cycle, circuit.mono included, arc, member, walk_mono included walk⟩,
    ⟨earlier, round.mono included, entry, listed, walk_mono included path⟩⟩

namespace DependencyGraph

variable {graph : DependencyGraph} {name : String} {order : List String}

theorem inCore_of_no_ends (wellFormed : graph.WellFormed) (noSink : graph.sinks = [])
    (noSource : graph.sources = []) (present : name ∈ graph.vertices) : InCore graph.arcs name := by
  constructor
  · obtain ⟨_, walk, closed⟩ := exists_cycle_after wellFormed noSink present
    obtain ⟨cycle, circuit, arc, member, rfl⟩ := exists_circuit_of_closed closed
    exact ⟨cycle, circuit, arc, member, walk⟩
  · obtain ⟨_, closed, walk⟩ := exists_cycle_before wellFormed noSource present
    obtain ⟨cycle, circuit, arc, member, rfl⟩ := exists_circuit_of_closed closed
    exact ⟨cycle, circuit, arc, member, walk⟩

theorem Arranged.inCore_of_pointsBack (arranged : Arranged graph order)
    (wellFormed : graph.WellFormed) :
    ∀ arc ∈ graph.arcs, arc.PointsBack order →
      InCore graph.arcs arc.source ∧ InCore graph.arcs arc.target := by
  let motive (graph : DependencyGraph) (arc : Arc) : Prop :=
    InCore graph.arcs arc.source ∧ InCore graph.arcs arc.target
  apply arranged.pointsBack_induction (motive := motive) _ _ wellFormed
  · intro graph arc formed noSink noSource _ member
    exact ⟨inCore_of_no_ends formed noSink noSource (formed.source_mem arc member),
      inCore_of_no_ends formed noSink noSource (formed.target_mem arc member)⟩
  · intro graph name arc formed core
    have included := arcs_remove_subset formed name
    exact ⟨core.1.mono included, core.2.mono included⟩

/-- No arc with an end outside the cyclic core is proposed for cutting. -/
theorem feedbackArcs_within_core (reachable : graph.Reachable) :
    ∀ arc ∈ graph.feedbackArcs, InCore graph.arcs arc.source ∧ InCore graph.arcs arc.target := by
  intro arc feedback
  have wellFormed := reachable.wellFormed
  obtain ⟨member, back⟩ := (mem_feedbackArcs wellFormed).mp feedback
  exact (ordering_arranged wellFormed).inCore_of_pointsBack wellFormed arc member back

/-- A circle of two with an arc that leads to it and one that leads away. -/
def passage : DependencyGraph :=
  ofArcs [("a", "b"), ("b", "c"), ("c", "b"), ("c", "d")]

theorem passage_feedbackArcs_within_core :
    ∃ arc ∈ passage.feedbackArcs, InCore passage.arcs arc.source ∧ InCore passage.arcs arc.target := by
  have reachable : passage.Reachable := .ofArcs _
  have cyclic : Cyclic passage.arcs := by
    have there : Leads passage.arcs "b" "c" := by decide +kernel
    have back : Leads passage.arcs "c" "b" := by decide +kernel
    exact ⟨"b", .tail (.single there) back⟩
  have nonempty : passage.feedbackArcs ≠ [] := fun none =>
    (feedbackArcs_eq_nil_iff reachable.wellFormed).mp none cyclic
  obtain ⟨arc, feedback⟩ := List.exists_mem_of_ne_nil _ nonempty
  exact ⟨arc, feedback, feedbackArcs_within_core reachable arc feedback⟩

end DependencyGraph

end ClassMetrics
