import ClassMetrics.Proofs.Dependency.Reachable

namespace ClassMetrics.DependencyGraph

/-- A graph without a name: each listing is the old one less the entries that involve the name. -/
structure Forgets (graph smaller : DependencyGraph) (name : String) : Prop where
  vertices : smaller.vertices = graph.vertices.filter (· ≠ name)
  arcs : smaller.arcs = graph.arcs.filter fun arc => !arc.touches name
  successors : ∀ other, other ≠ name → smaller.successors other = (graph.successors other).filter (· ≠ name)
  predecessors : ∀ other, other ≠ name → smaller.predecessors other = (graph.predecessors other).filter (· ≠ name)

/-- A graph with one more arc, the newest at both of its ends. -/
structure GainsArc (graph grown : DependencyGraph) (source target : String) : Prop where
  arcs : ∃ before after, graph.arcs = before ++ after ∧ grown.arcs = before ++ ⟨source, target⟩ :: after
  successors : grown.successors source = target :: graph.successors source
  predecessors : grown.predecessors target = source :: graph.predecessors target
  otherSuccessors : ∀ other, other ≠ source → grown.successors other = graph.successors other
  otherPredecessors : ∀ other, other ≠ target → grown.predecessors other = graph.predecessors other

structure SameArcs (graph changed : DependencyGraph) : Prop where
  arcs : changed.arcs = graph.arcs
  successors : ∀ name, changed.successors name = graph.successors name
  predecessors : ∀ name, changed.predecessors name = graph.predecessors name

variable {graph : DependencyGraph} {name source target : String}

theorem sameArcs_ensure (wellFormed : graph.WellFormed) (name : String) : graph.SameArcs (graph.ensure name) where
  arcs := arcs_ensure wellFormed name
  successors := neighbours_ensure wellFormed name .source
  predecessors := neighbours_ensure wellFormed name .target

theorem SameArcs.trans {first second third : DependencyGraph} (before : first.SameArcs second)
    (after : second.SameArcs third) : first.SameArcs third where
  arcs := after.arcs.trans before.arcs
  successors name := (after.successors name).trans (before.successors name)
  predecessors name := (after.predecessors name).trans (before.predecessors name)

theorem sameArcs_ensures (wellFormed : graph.WellFormed) (source target : String) :
    graph.SameArcs ((graph.ensure source).ensure target) :=
  (sameArcs_ensure wellFormed source).trans (sameArcs_ensure (wellFormed.ensure source) target)

theorem sameArcs_connect (wellFormed : graph.WellFormed) (refused : graph.accepts source target = false) :
    graph.SameArcs (graph.connect source target) := by
  rw [connect_refused wellFormed refused]
  exact sameArcs_ensures wellFormed source target

theorem gainsArc_connect (wellFormed : graph.WellFormed) (accepted : graph.accepts source target = true) :
    graph.GainsArc (graph.connect source target) source target := by
  have same := sameArcs_ensures wellFormed source target
  obtain ⟨ends, inside, added, fits, named⟩ := connect_accepted wellFormed accepted
  have neighbours (side : End) (held : String) := neighbours_addArc inside fits side held
  rw [named, ← added] at neighbours
  refine ⟨?_, ?_, ?_, fun other different => ?_, fun other different => ?_⟩
  · obtain ⟨before, after, old, grown⟩ := exists_arcs_addArc inside
    rw [named, ← added] at grown
    exact ⟨before, after, same.arcs.symm.trans old, grown⟩
  · exact ((neighbours .source source).trans (if_pos rfl)).trans (congrArg _ (same.successors source))
  · exact ((neighbours .target target).trans (if_pos rfl)).trans (congrArg _ (same.predecessors target))
  · exact ((neighbours .source other).trans (if_neg (Ne.symm different))).trans (same.successors other)
  · exact ((neighbours .target other).trans (if_neg (Ne.symm different))).trans (same.predecessors other)

theorem forgets_remove (wellFormed : graph.WellFormed) (name : String) :
    graph.Forgets (graph.remove name) name where
  vertices := vertices_remove graph name
  arcs := arcs_remove wellFormed
  successors _ kept := neighbours_remove wellFormed kept .source
  predecessors _ kept := neighbours_remove wellFormed kept .target

/-- Removing a name deletes what involves it and nothing else, which is nothing if the name is absent. Connecting two
names adds one entry to each listing it must, or none, by whether it reports an arc; a name alone adds none. -/
theorem changes_keep_other_entries (reachable : graph.Reachable) :
    (∀ name, graph.Forgets (graph.remove name) name ∧ (name ∉ graph.vertices → graph.remove name = graph)) ∧
      (∀ source target,
        (graph.accepts source target = true → graph.GainsArc (graph.connect source target) source target) ∧
        (graph.accepts source target = false → graph.SameArcs (graph.connect source target))) ∧
      ∀ name, graph.SameArcs (graph.ensure name) := by
  have wellFormed := reachable.wellFormed
  exact ⟨fun name => ⟨forgets_remove wellFormed name, remove_of_absent⟩,
    fun source target => ⟨gainsArc_connect wellFormed, sameArcs_connect wellFormed⟩, sameArcs_ensure wellFormed⟩

def hub : DependencyGraph :=
  ((ofArcs [("h", "a"), ("h", "b"), ("h", "c"), ("c", "h"), ("b", "h"), ("a", "c")]).remove "b").connect "d" "h"

theorem hub_keeps_other_entries :
    hub.Reachable ∧ hub.vertices = ["h", "a", "d", "c"] ∧ hub.successors "h" = ["c", "a"] ∧
      (hub.remove "c").successors "h" = ["a"] ∧ hub.Forgets (hub.remove "c") "c" ∧ hub.remove "b" = hub ∧
      hub.accepts "h" "d" = true ∧ (hub.connect "h" "d").successors "h" = ["d", "c", "a"] ∧
      hub.GainsArc (hub.connect "h" "d") "h" "d" ∧
      hub.accepts "h" "a" = false ∧ hub.SameArcs (hub.connect "h" "a") := by
  have reachable : hub.Reachable := ((Reachable.ofArcs _).remove "b").connect "d" "h"
  obtain ⟨removing, connecting, _⟩ := changes_keep_other_entries reachable
  exact ⟨reachable, by decide +kernel, by decide +kernel, by decide +kernel, (removing "c").1,
    (removing "b").2 (by decide +kernel), by decide +kernel, by decide +kernel,
    (connecting "h" "d").1 (by decide +kernel), by decide +kernel, (connecting "h" "a").2 (by decide +kernel)⟩

end ClassMetrics.DependencyGraph
