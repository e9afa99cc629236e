import ClassMetrics.Dependency.Graph
import ClassMetrics.Proofs.Data.ArcTable

namespace ClassMetrics

theorem Arc.eq_of_get {first second : Arc} (side : End) (here : first.get side = second.get side)
    (across : first.get side.other = second.get side.other) : first = second := by
  cases first
  cases second
  cases side <;> simp_all [Arc.get, End.other]

theorem Arc.exists_mem_iff {arcs : List Arc} {source target : String} :
    (∃ arc ∈ arcs, arc.source = source ∧ arc.target = target) ↔ ⟨source, target⟩ ∈ arcs := by
  constructor
  · intro ⟨arc, member, starts, ends⟩
    cases arc
    cases starts
    cases ends
    exact member
  · intro member
    exact ⟨_, member, rfl, rfl⟩

namespace DependencyGraph

/-!
The dependency graph by names. Slots, free lists and linked lists are left behind here: what is said of the listings
of a graph and of what every change does to them is in names and arcs alone.
-/

/-- Every arc joins two names, no two arcs the same ones. -/
structure WellFormed (graph : DependencyGraph) : Prop where
  known : ∀ place ends, graph.arcTable.ends? place = some ends →
    ∀ side, (graph.nameTable.name? (ends.get side)).isSome
  apart : ∀ place ends, graph.arcTable.ends? place = some ends → ends.source ≠ ends.target
  single : graph.arcTable.slots.Single

variable {graph : DependencyGraph} {name held source target : String} {slot place : Nat} {side : End} {arc : Arc}
  {ends : Ends Nat}

theorem nameOf_eq_iff (present : (graph.nameTable.name? slot).isSome) :
    graph.nameOf slot = name ↔ graph.slot? name = some slot := by
  obtain ⟨held, found⟩ := Option.isSome_iff_exists.mp present
  rw [NameTable.slot?_eq_some_iff, nameOf, found, Option.getD_some, Option.some.injEq]

theorem get_named (graph : DependencyGraph) (ends : Ends Nat) (side : End) :
    (graph.named ends).get side = graph.nameOf (ends.get side) := by
  cases side <;> rfl

theorem mem_vertices : name ∈ graph.vertices ↔ (graph.slot? name).isSome :=
  NameTable.mem_names

theorem vertices_nodup (graph : DependencyGraph) : graph.vertices.Nodup :=
  graph.nameTable.single.values_nodup

theorem mem_arcs :
    arc ∈ graph.arcs ↔ ∃ place ends, graph.arcTable.ends? place = some ends ∧ graph.named ends = arc := by
  simp only [arcs, List.mem_map, Slots.mem_values]
  constructor
  · intro ⟨ends, ⟨place, found⟩, same⟩
    exact ⟨place, ends, found, same⟩
  · intro ⟨place, ends, found, same⟩
    exact ⟨ends, ⟨place, found⟩, same⟩

theorem neighbours_of_absent (absent : graph.slot? name = none) : graph.neighbours side name = [] := by
  simp [neighbours, absent]

theorem neighbours_of_slot? (found : graph.slot? name = some slot) :
    graph.neighbours side name = (graph.arcTable.arcsAt side slot).filterMap fun place =>
      (graph.arcTable.ends? place).map fun ends => (graph.named ends).get side.other := by
  simp [neighbours, found]

namespace WellFormed

variable (wellFormed : graph.WellFormed)

include wellFormed

theorem slot?_get (found : graph.arcTable.ends? place = some ends) (side : End) :
    graph.slot? ((graph.named ends).get side) = some (ends.get side) := by
  rw [get_named]
  exact (nameOf_eq_iff (wellFormed.known place ends found side)).mp rfl

theorem get_eq_iff (found : graph.arcTable.ends? place = some ends) :
    (graph.named ends).get side = name ↔ graph.slot? name = some (ends.get side) := by
  rw [get_named]
  exact nameOf_eq_iff (wellFormed.known place ends found side)

theorem named_injective {first second : Nat} {others : Ends Nat} (found : graph.arcTable.ends? first = some ends)
    (foundToo : graph.arcTable.ends? second = some others) (same : graph.named ends = graph.named others) :
    ends = others := by
  have equal (side : End) : ends.get side = others.get side := by
    have one := wellFormed.slot?_get found side
    rw [same, wellFormed.slot?_get foundToo side] at one
    exact (Option.some.inj one).symm
  have sources := equal .source
  have targets := equal .target
  cases ends
  cases others
  simp_all [Ends.get]

theorem arcs_nodup : graph.arcs.Nodup := by
  refine List.Nodup.map_on ?_ wellFormed.single.values_nodup
  intro first firstIn second secondIn same
  obtain ⟨_, found⟩ := Slots.mem_values.mp firstIn
  obtain ⟨_, foundToo⟩ := Slots.mem_values.mp secondIn
  exact wellFormed.named_injective found foundToo same

theorem get_mem (member : arc ∈ graph.arcs) (side : End) : arc.get side ∈ graph.vertices := by
  obtain ⟨place, ends, found, rfl⟩ := mem_arcs.mp member
  rw [mem_vertices, wellFormed.slot?_get found side]
  rfl

theorem source_mem (arc : Arc) (member : arc ∈ graph.arcs) : arc.source ∈ graph.vertices :=
  wellFormed.get_mem member .source

theorem target_mem (arc : Arc) (member : arc ∈ graph.arcs) : arc.target ∈ graph.vertices :=
  wellFormed.get_mem member .target

theorem noLoop (arc : Arc) (member : arc ∈ graph.arcs) : arc.source ≠ arc.target := by
  obtain ⟨place, ends, found, rfl⟩ := mem_arcs.mp member
  intro same
  have one := wellFormed.slot?_get found .source
  have other := wellFormed.slot?_get found .target
  simp only [Arc.get, same] at one other
  exact wellFormed.apart place ends found (Option.some.inj (one.symm.trans other))

theorem touches_absent (absent : name ∉ graph.vertices) (member : arc ∈ graph.arcs) : arc.touches name = false := by
  have sourceOther : arc.source ≠ name := fun same => absent (same ▸ wellFormed.source_mem arc member)
  have targetOther : arc.target ≠ name := fun same => absent (same ▸ wellFormed.target_mem arc member)
  simp [Arc.touches, sourceOther, targetOther]

theorem mem_neighbours :
    held ∈ graph.neighbours side name ↔ ∃ arc ∈ graph.arcs, arc.get side = name ∧ arc.get side.other = held := by
  simp only [mem_arcs]
  unfold neighbours
  split
  · rename_i absent
    constructor
    · intro member
      cases member
    · intro ⟨arc, ⟨place, ends, found, same⟩, here, _⟩
      rw [← same, wellFormed.get_eq_iff found, absent] at here
      cases here
  · rename_i slot found
    simp only [List.mem_filterMap, ArcTable.mem_arcsAt, Option.map_eq_some_iff]
    constructor
    · intro ⟨place, ⟨ends, listed, here⟩, _, same, across⟩
      cases listed.symm.trans same
      exact ⟨_, ⟨place, ends, listed, rfl⟩, (wellFormed.get_eq_iff listed).mpr (here ▸ found), across⟩
    · intro ⟨arc, ⟨place, ends, listed, same⟩, here, across⟩
      subst same
      have there := (wellFormed.get_eq_iff listed).mp here
      exact ⟨place, ⟨ends, listed, Option.some.inj (there.symm.trans found)⟩, ends, listed, across⟩

theorem neighbours_nodup (side : End) (name : String) : (graph.neighbours side name).Nodup := by
  unfold neighbours
  split
  · exact .nil
  · rename_i slot found
    rw [List.Nodup, List.pairwise_filterMap]
    refine (graph.arcTable.arcsAt_nodup side slot).imp_of_mem ?_
    intro first second firstIn secondIn different one atFirst two atSecond same
    obtain ⟨ends, listed, here⟩ := ArcTable.mem_arcsAt.mp firstIn
    obtain ⟨others, listedToo, there⟩ := ArcTable.mem_arcsAt.mp secondIn
    rw [listed, Option.map_some, Option.some.injEq] at atFirst
    rw [listedToo, Option.map_some, Option.some.injEq] at atSecond
    -- Both arcs are at one name, so with the names across from it they would be the same arc.
    have equal : graph.named ends = graph.named others := by
      refine Arc.eq_of_get side ?_ (atFirst.trans (same.trans atSecond.symm))
      rw [get_named, get_named, here, there]
    have both := wellFormed.named_injective listed listedToo equal
    exact different (wellFormed.single first second ends listed (both ▸ listedToo))

theorem neighbours_perm (side : End) (name : String) :
    (graph.neighbours side name).Perm
      ((graph.arcs.filter fun arc => arc.get side == name).map fun arc => arc.get side.other) := by
  have distinct : ((graph.arcs.filter fun arc => arc.get side == name).map fun arc => arc.get side.other).Nodup := by
    refine List.Nodup.map_on ?_ (wellFormed.arcs_nodup.filter _)
    intro first firstIn second secondIn same
    have one := eq_of_beq (List.mem_filter.mp firstIn).2
    have two := eq_of_beq (List.mem_filter.mp secondIn).2
    exact Arc.eq_of_get side (one.trans two.symm) same
  refine (List.perm_ext_iff_of_nodup (wellFormed.neighbours_nodup side name) distinct).mpr fun held => ?_
  rw [wellFormed.mem_neighbours, List.mem_map]
  simp only [List.mem_filter, beq_iff_eq, and_assoc]

theorem mem_successors : target ∈ graph.successors name ↔ ⟨name, target⟩ ∈ graph.arcs := by
  rw [successors, wellFormed.mem_neighbours]
  exact Arc.exists_mem_iff

theorem mem_predecessors : source ∈ graph.predecessors name ↔ ⟨source, name⟩ ∈ graph.arcs := by
  rw [predecessors, wellFormed.mem_neighbours, ← Arc.exists_mem_iff]
  exact exists_congr fun arc => and_congr_right fun _ => and_comm

end WellFormed

theorem joins_iff {first second : Nat} :
    graph.joins first second = true ↔ ∃ place, graph.arcTable.ends? place = some ⟨first, second⟩ := by
  simp only [joins, List.any_eq_true, ArcTable.mem_arcsAt, Option.any_eq_true, beq_iff_eq]
  constructor
  · intro ⟨place, ⟨ends, listed, starts⟩, _, same, reaches⟩
    cases listed.symm.trans same
    cases ends
    cases starts
    cases reaches
    exact ⟨place, listed⟩
  · intro ⟨place, listed⟩
    exact ⟨place, ⟨_, listed, rfl⟩, _, listed, rfl⟩

theorem WellFormed.hasArc_iff (wellFormed : graph.WellFormed) : graph.hasArc arc = true ↔ arc ∈ graph.arcs := by
  rw [mem_arcs]
  unfold hasArc
  split
  · rename_i first second starts reaches
    rw [joins_iff]
    constructor
    · intro ⟨place, listed⟩
      refine ⟨place, _, listed, Arc.eq_of_get .source ?_ ?_⟩
      · exact (wellFormed.get_eq_iff listed).mpr starts
      · exact (wellFormed.get_eq_iff listed).mpr reaches
    · intro ⟨place, ends, listed, same⟩
      subst same
      have source := wellFormed.slot?_get listed .source
      have target := wellFormed.slot?_get listed .target
      cases ends
      cases starts.symm.trans source
      cases reaches.symm.trans target
      exact ⟨place, listed⟩
  · rename_i unknown
    constructor
    · intro impossible
      cases impossible
    · intro ⟨place, ends, listed, same⟩
      subst same
      exact absurd (wellFormed.slot?_get listed .target)
        (unknown _ _ (wellFormed.slot?_get listed .source))

theorem accepts_iff (wellFormed : graph.WellFormed) :
    graph.accepts source target = true ↔ source ≠ target ∧ ⟨source, target⟩ ∉ graph.arcs := by
  rw [← wellFormed.hasArc_iff]
  simp [accepts]

end DependencyGraph

end ClassMetrics
