import ClassMetrics.Proofs.Data.Distinct
import ClassMetrics.Proofs.Dependency.Frame

namespace ClassMetrics.DependencyGraph

structure Records (graph : DependencyGraph) (names : List String) (added : List Arc) : Prop where
  wellFormed : graph.WellFormed
  noFreeName : graph.nameTable.slots.free = []
  noFreeArc : graph.arcTable.slots.free = []
  vertices : graph.vertices = names.eraseDups
  arcs : graph.arcs = added.eraseDups
  neighbours : ∀ side name, graph.neighbours side name =
    ((added.eraseDups.filter fun arc => arc.get side == name).map fun arc => arc.get side.other).reverse

variable {graph : DependencyGraph} {names : List String} {added : List Arc}

namespace Records

protected theorem empty : empty.Records [] [] :=
  ⟨.empty, rfl, rfl, rfl, rfl, fun _ _ => rfl⟩

protected theorem ensure (records : graph.Records names added) (name : String) :
    (graph.ensure name).Records (names ++ [name]) added := by
  have wellFormed := records.wellFormed
  have known : names.contains name ↔ name ∈ graph.vertices := by
    rw [records.vertices, List.mem_eraseDups, List.contains_iff_mem]
  by_cases present : name ∈ graph.vertices
  · rw [ensure_of_mem present]
    refine { records with vertices := ?_ }
    rw [eraseDups_concat, if_pos (known.mpr present), records.vertices]
  · have fresh : graph.slot? name = none := by simpa [mem_vertices] using present
    refine ⟨wellFormed.ensure name, ?_, ?_, ?_, ?_, ?_⟩
    · rw [ensure_of_fresh fresh]
      exact Slots.free_insert_full records.noFreeName name
    · have same : (graph.addVertex name fresh).arcTable.slots = graph.arcTable.slots := ArcTable.slots_cover _ _
      rw [ensure_of_fresh fresh, same, records.noFreeArc]
    · rw [eraseDups_concat, if_neg (mt known.mp present), ← records.vertices, ensure_of_fresh fresh]
      exact Slots.values_insert_full records.noFreeName name
    · rw [arcs_ensure wellFormed, records.arcs]
    · intro side held
      rw [neighbours_ensure wellFormed, records.neighbours]

theorem accepts_iff (records : graph.Records names added) {source target : String} :
    graph.accepts source target = true ↔ source ≠ target ∧ ⟨source, target⟩ ∉ added := by
  rw [DependencyGraph.accepts_iff records.wellFormed, records.arcs, List.mem_eraseDups]

/-- An arc from a name to itself leaves the name only. -/
protected theorem connect (records : graph.Records names added) (source target : String) :
    (graph.connect source target).Records (names ++ [source, target])
      (added ++ if source = target then [] else [⟨source, target⟩]) := by
  have ends := (records.ensure source).ensure target
  rw [List.append_assoc] at ends
  let arc : Arc := ⟨source, target⟩
  cases accepted : graph.accepts source target with
  | true =>
      obtain ⟨different, absent⟩ := records.accepts_iff.mp accepted
      obtain ⟨numbers, inside, same, fits, named⟩ := connect_accepted records.wellFormed accepted
      have grown : (added ++ [arc]).eraseDups = added.eraseDups ++ [arc] := by
        rw [eraseDups_concat, if_neg (by simpa using absent)]
      rw [same, if_neg different]
      refine ⟨ends.wellFormed.addArc inside fits, ends.noFreeName, ?_, ends.vertices, ?_, ?_⟩
      · exact Slots.free_insert_full ends.noFreeArc numbers
      · have last := congrArg (List.map ((graph.ensure source).ensure target).named)
          (Slots.values_insert_full ends.noFreeArc numbers)
        rw [List.map_append, List.map_singleton, named] at last
        rw [grown, ← ends.arcs]
        exact last
      · intro side held
        rw [neighbours_addArc inside fits, named, grown, ends.neighbours, List.filter_append]
        by_cases here : arc.get side = held <;> simp [arc, here]
  | false =>
      rw [connect_refused records.wellFormed accepted]
      by_cases same : source = target
      · rw [if_pos same, List.append_nil]
        exact ends
      · have present : arc ∈ added := by
          by_contra absent
          rw [records.accepts_iff.mpr ⟨same, absent⟩] at accepted
          cases accepted
        have unchanged : (added ++ [arc]).eraseDups = added.eraseDups := by
          rw [eraseDups_concat, if_pos (by simpa using present)]
        rw [if_neg same]
        refine { ends with arcs := by rw [unchanged, ends.arcs], neighbours := fun side held => ?_ }
        rw [unchanged, ends.neighbours]

theorem foldl_ensure (records : graph.Records names added) (more : List String) :
    (more.foldl DependencyGraph.ensure graph).Records (names ++ more) added := by
  induction more generalizing graph names with
  | nil => simpa using records
  | cons name rest ih => simpa using ih (records.ensure name)

theorem foldl_connect (records : graph.Records names added) (more : List Arc) :
    (more.foldl (fun graph arc => graph.connect arc.source arc.target) graph).Records
      (names ++ more.flatMap fun arc => [arc.source, arc.target])
      (added ++ more.filter fun arc => arc.source ≠ arc.target) := by
  induction more generalizing graph names added with
  | nil => simpa using records
  | cons arc rest ih =>
      have later := ih (records.connect arc.source arc.target)
      by_cases loop : arc.source = arc.target <;> simpa [loop] using later

theorem successors_eq (records : graph.Records names added) (name : String) :
    graph.successors name = ((added.eraseDups.filter fun arc => arc.source == name).map (·.target)).reverse := by
  exact records.neighbours .source name

theorem predecessors_eq (records : graph.Records names added) (name : String) :
    graph.predecessors name = ((added.eraseDups.filter fun arc => arc.target == name).map (·.source)).reverse := by
  exact records.neighbours .target name

end Records

def arcOf (pair : String × String) : Arc := ⟨pair.1, pair.2⟩

theorem arcOf_injective : Function.Injective arcOf := by
  intro first second same
  exact Prod.ext (congrArg Arc.source same) (congrArg Arc.target same)

theorem records_ofArcs (pairs : List (String × String)) :
    (ofArcs pairs).Records (pairs.flatMap fun pair => [pair.1, pair.2])
      ((pairs.filter fun pair => pair.1 ≠ pair.2).map arcOf) := by
  have records := Records.empty.foldl_connect (pairs.map arcOf)
  rwa [List.foldl_map, List.flatMap_map, List.filter_map] at records

/-- A graph made from a list of pairs. The names stand in the order in which the list mentions them first, the arcs in
the order of the first mentions of their pairs, and the neighbours of a name the other way round. -/
theorem ofArcs_lists_first_mentions (pairs : List (String × String)) :
    let graph := ofArcs pairs
    let proper := (pairs.filter fun pair => pair.1 ≠ pair.2).eraseDups
    graph.vertices = (pairs.flatMap fun pair => [pair.1, pair.2]).eraseDups ∧
      graph.arcs = proper.map (fun pair => ⟨pair.1, pair.2⟩) ∧
      ∀ name,
        graph.successors name = ((proper.filter fun pair => pair.1 = name).map (·.2)).reverse ∧
        graph.predecessors name = ((proper.filter fun pair => pair.2 = name).map (·.1)).reverse := by
  have records := records_ofArcs pairs
  have distinct := eraseDups_map arcOf_injective (pairs.filter fun pair => pair.1 ≠ pair.2)
  refine ⟨records.vertices, records.arcs.trans distinct, fun name => ⟨?_, ?_⟩⟩
  · rw [records.successors_eq, distinct, List.filter_map, List.map_map]
    rfl
  · rw [records.predecessors_eq, distinct, List.filter_map, List.map_map]
    rfl

end ClassMetrics.DependencyGraph
