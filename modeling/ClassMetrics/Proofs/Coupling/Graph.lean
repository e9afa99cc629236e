import ClassMetrics.Coupling.Graph
import ClassMetrics.Proofs.Data.Distinct
import Mathlib.Data.List.Induction

namespace ClassMetrics

def Relation.get (relation : Relation) : End → String
  | .source => relation.source
  | .target => relation.target

theorem filterMap_incident (arcs : List NumberedEdge) (side : End) (vertex : Nat) :
    (incident arcs.toArray side vertex).filterMap (arcs[·]?) =
      (arcs.filter fun arc => arc.ends.get side == vertex).reverse := by
  induction arcs using List.reverseRecOn with
  | nil => rfl
  | append_singleton before arc ih =>
      have old : (incident before.toArray side vertex).filterMap ((before ++ [arc])[·]?) =
          (before.filter fun arc => arc.ends.get side == vertex).reverse := by
        rw [← ih]
        apply List.filterMap_congr
        intro edge member
        have bound : edge < before.length := by simpa using (List.mem_filter.mp member).1
        rw [List.getElem?_append_left bound]
      rw [← List.push_toArray, incident_push]
      by_cases here : arc.ends.get side = vertex
      · simp [here, old]
      · simp [here, old]

namespace CouplingGraph

variable {graph : CouplingGraph} {name : String} {side : End}

theorem contains_iff : graph.contains name = true ↔ name ∈ graph.vertices := by
  rw [contains, Option.isSome_iff_exists, Array.mem_iff_getElem?]
  simp only [position?, graph.numbered]

theorem vertices_nodup (graph : CouplingGraph) : graph.vertices.toList.Nodup := by
  rw [List.nodup_iff_injective_get]
  intro first second same
  have number (place : Fin graph.vertices.toList.length) :
      Keyed.get? (graph.vertices.toList.get place) graph.numbers = some place.val := by
    rw [graph.numbered, ← Array.getElem?_toList, List.getElem?_eq_getElem place.isLt]
    rfl
  have sameNumber := number first
  rw [same, number second] at sameNumber
  exact Fin.ext (Option.some.inj sameNumber).symm

theorem nameOf_eq_iff {vertex : Nat} (bound : vertex < graph.vertices.size) :
    graph.nameOf vertex = name ↔ graph.position? name = some vertex := by
  rw [position?, graph.numbered, Array.getElem?_eq_getElem bound, Option.some_inj, nameOf,
    Array.getD_eq_getD_getElem?, Array.getElem?_eq_getElem bound, Option.getD_some]

theorem nameOf_mem {vertex : Nat} (bound : vertex < graph.vertices.size) : graph.nameOf vertex ∈ graph.vertices := by
  rw [← contains_iff, contains, (nameOf_eq_iff bound).mp rfl]
  rfl

theorem get_relationOf (graph : CouplingGraph) (arc : NumberedEdge) (side : End) :
    (graph.relationOf arc).get side = graph.nameOf (arc.ends.get side) := by
  cases side <;> rfl

theorem toList_edges (graph : CouplingGraph) : graph.edges.toList = graph.arcs.toList.map graph.relationOf :=
  Array.toList_map

theorem ends_mem {edge : Relation} (member : edge ∈ graph.edges) (side : End) : edge.get side ∈ graph.vertices := by
  obtain ⟨arc, held, rfl⟩ := Array.mem_map.mp member
  rw [get_relationOf]
  exact nameOf_mem (graph.inside arc held side)

/-- Edges are compared by the numbers of their ends where the names are known. -/
theorem filter_edges {vertex : Nat} (found : graph.position? name = some vertex) (side : End) :
    (graph.edges.toList.filter fun edge => edge.get side == name) =
      (graph.arcs.toList.filter fun arc => arc.ends.get side == vertex).map graph.relationOf := by
  rw [toList_edges, List.filter_map]
  congr 1
  apply List.filter_congr
  intro arc member
  rw [Function.comp_apply, get_relationOf, Bool.eq_iff_iff, beq_iff_eq, beq_iff_eq,
    nameOf_eq_iff (graph.inside arc (Array.mem_toList_iff.mp member) side), found, Option.some_inj, eq_comm]

theorem filter_edges_unknown (unknown : graph.position? name = none) (side : End) :
    (graph.edges.toList.filter fun edge => edge.get side == name) = [] := by
  apply List.filter_eq_nil_iff.mpr
  intro edge member same
  have known := ends_mem (Array.mem_toList_iff.mp member) side
  rw [beq_iff_eq.mp same, ← contains_iff, contains, unknown] at known
  cases known

/-- The list at a class holds the edges that have the class at that end. -/
theorem map_arcsAt (graph : CouplingGraph) (side : End) (name : String) :
    (graph.arcsAt side name).map graph.relationOf =
      (graph.edges.toList.filter fun edge => edge.get side == name).reverse := by
  cases found : graph.position? name with
  | none =>
      rw [filter_edges_unknown found]
      simp only [arcsAt, found, List.map_nil, List.reverse_nil]
  | some vertex =>
      have listed := filterMap_incident graph.arcs.toList side vertex
      simp only [Array.toArray_toList, Array.getElem?_toList] at listed
      simp only [arcsAt, found, filter_edges found, graph.listed.edgesAt_eq, ← List.map_reverse, listed]

theorem mem_arcs_of_mem_arcsAt {arc : NumberedEdge} (member : arc ∈ graph.arcsAt side name) : arc ∈ graph.arcs := by
  unfold arcsAt at member
  split at member
  · cases member
  · obtain ⟨edge, _, held⟩ := List.mem_filterMap.mp member
    exact Array.mem_of_getElem? held

theorem map_arcsBetween (graph : CouplingGraph) (source target : String) :
    (graph.arcsBetween source target).map graph.relationOf =
      (graph.edges.toList.filter fun edge => edge.source == source && edge.target == target).reverse := by
  have both : (graph.edges.toList.filter fun edge => edge.source == source && edge.target == target) =
      (graph.edges.toList.filter fun edge => edge.target == target).filter (·.source == source) := by
    rw [List.filter_filter]
  cases found : graph.position? target with
  | none =>
      rw [both, show (graph.edges.toList.filter fun edge => edge.target == target) = [] from
        filter_edges_unknown found .target]
      simp only [arcsBetween, found, List.map_nil, List.filter_nil, List.reverse_nil]
  | some vertex =>
      have targets : ((graph.arcsAt .source source).filter (·.ends.target == vertex)).map graph.relationOf =
          ((graph.arcsAt .source source).map graph.relationOf).filter (·.target == target) := by
        rw [List.filter_map]
        congr 1
        apply List.filter_congr
        intro arc member
        have bound := graph.inside arc (mem_arcs_of_mem_arcsAt member) .target
        rw [Function.comp_apply, Bool.eq_iff_iff, beq_iff_eq, beq_iff_eq]
        exact Iff.symm ((nameOf_eq_iff bound).trans (by rw [found, Option.some_inj, eq_comm]; rfl))
      simp only [arcsBetween, found, targets, map_arcsAt, List.filter_reverse, List.filter_filter]
      simp only [Relation.get, Bool.and_comm]

section Counts

def countEdges (graph : CouplingGraph) (counted : Relation → Bool) : Nat :=
  graph.edges.toList.countP counted

/-- What is counted along the list of a class is counted over all edges. -/
theorem countBetween_eq (graph : CouplingGraph) (source target : String) :
    graph.countBetween source target = graph.countEdges fun edge => edge.source == source && edge.target == target := by
  rw [countBetween, ← List.length_map graph.relationOf, map_arcsBetween, List.length_reverse, countEdges,
    List.countP_eq_length_filter]

theorem countOfKind_eq (graph : CouplingGraph) (source target : String) (kind : RelationKind) :
    graph.countOfKind source target kind =
      graph.countEdges fun edge => edge.source == source && edge.target == target && edge.kind == kind := by
  have kinds : graph.countOfKind source target kind =
      ((graph.arcsBetween source target).map graph.relationOf).countP (·.kind == kind) := by
    rw [List.countP_map]
    rfl
  rw [kinds, map_arcsBetween, List.countP_reverse, List.countP_filter, countEdges]
  simp only [Bool.and_comm]

theorem countByKind_eq (graph : CouplingGraph) (kind : RelationKind) :
    graph.countByKind kind = graph.countEdges fun edge => edge.kind == kind := by
  rw [countEdges, toList_edges, List.countP_map]
  rfl

theorem outDegree_eq (graph : CouplingGraph) (name : String) :
    graph.outDegree name = graph.countEdges fun edge => edge.source == name := by
  rw [outDegree, ← List.length_map graph.relationOf, map_arcsAt, List.length_reverse, countEdges,
    List.countP_eq_length_filter]
  rfl

theorem inDegree_eq (graph : CouplingGraph) (name : String) :
    graph.inDegree name = graph.countEdges fun edge => edge.target == name := by
  rw [inDegree, ← List.length_map graph.relationOf, map_arcsAt, List.length_reverse, countEdges,
    List.countP_eq_length_filter]
  rfl

theorem edgeCount_eq (graph : CouplingGraph) : graph.edgeCount = graph.edges.size := by
  rw [edgeCount, edges, Array.size_map]

/-- The classes that a class relates to, before they are put in order. -/
theorem outNeighbours_eq (graph : CouplingGraph) (name : String) :
    graph.outNeighbours name = (((graph.edges.toList.filter fun edge => edge.source == name).reverse.map
      (·.target)).eraseDups.mergeSort fun first second => decide (first ≤ second)) := by
  have targets := congrArg (List.map (·.target)) (map_arcsAt graph .source name)
  rw [List.map_map] at targets
  change _ =
    ((graph.edges.toList.filter fun edge => edge.get .source == name).reverse.map (·.target)).eraseDups.mergeSort _
  rw [← targets]
  rfl

end Counts

section Growth

theorem vertices_ensure (graph : CouplingGraph) (name : String) :
    (graph.ensure name).vertices = if graph.contains name then graph.vertices else graph.vertices.push name := by
  unfold ensure enter
  split
  · rename_i number found
    rw [if_pos (by rw [contains, found]; rfl)]
  · rename_i unknown
    rw [if_neg (by rw [contains, unknown]; simp)]
    rfl

theorem arcs_ensure (graph : CouplingGraph) (name : String) : (graph.ensure name).arcs = graph.arcs := by
  unfold ensure enter
  split <;> rfl

theorem position?_enter (graph : CouplingGraph) (name : String) :
    (graph.ensure name).position? name = some (graph.enter name).1 := by
  unfold ensure enter
  split
  · assumption
  · rw [position?, addVertex, Keyed.get?_insert, if_pos rfl]

/-- A name keeps its number. -/
theorem position?_ensure {vertex : Nat} (found : graph.position? name = some vertex) (other : String) :
    (graph.ensure other).position? name = some vertex := by
  rw [position?, numbered] at found ⊢
  rw [vertices_ensure]
  split
  · exact found
  · rwa [Array.getElem?_push_lt (Array.getElem?_eq_some_iff.mp found).1, ← Array.getElem?_eq_getElem]

theorem edges_ensure (graph : CouplingGraph) (name : String) : (graph.ensure name).edges = graph.edges := by
  have same : ∀ arc ∈ graph.arcs, (graph.ensure name).relationOf arc = graph.relationOf arc := by
    intro arc member
    have kept (side : End) : (graph.ensure name).nameOf (arc.ends.get side) = graph.nameOf (arc.ends.get side) := by
      have found := position?_ensure ((nameOf_eq_iff (graph.inside arc member side)).mp rfl) name
      have bound := (graph.ensure name).inside arc (by rwa [arcs_ensure]) side
      exact (nameOf_eq_iff bound).mpr found
    rw [relationOf, relationOf]
    congr 1
    · exact kept .source
    · exact kept .target
  rw [edges, arcs_ensure, edges]
  exact Array.map_congr_left same

theorem edges_relate (graph : CouplingGraph) (relation : Relation) :
    (graph.relate relation).edges = graph.edges.push relation := by
  let ends := (graph.ensure relation.source).ensure relation.target
  have source : ends.position? relation.source = some (graph.enter relation.source).1 :=
    position?_ensure (graph.position?_enter relation.source) relation.target
  have target : ends.position? relation.target = some ((graph.ensure relation.source).enter relation.target).1 :=
    (graph.ensure relation.source).position?_enter relation.target
  have bound {name : String} {vertex : Nat} (found : ends.position? name = some vertex) : vertex < ends.vertices.size :=
    (Array.getElem?_eq_some_iff.mp ((ends.numbered name vertex).mp found)).1
  let arc : NumberedEdge :=
    ⟨⟨(graph.enter relation.source).1, ((graph.ensure relation.source).enter relation.target).1⟩, relation.kind⟩
  have added : ends.relationOf arc = relation := by
    rw [relationOf, (nameOf_eq_iff (bound source)).mpr source, (nameOf_eq_iff (bound target)).mpr target]
  have grown : (graph.relate relation).edges = ends.edges.push (ends.relationOf arc) := Array.map_push
  rw [grown, added, edges_ensure, edges_ensure]

end Growth

/-- A graph with these names and, after them, these relations. -/
def recording (names : List String) (relations : List Relation) : CouplingGraph :=
  relations.foldl relate (names.foldl ensure empty)

structure Records (graph : CouplingGraph) (names : List String) (relations : List Relation) : Prop where
  vertices : graph.vertices.toList = names.eraseDups
  edges : graph.edges.toList = relations

variable {names : List String} {relations : List Relation}

namespace Records

protected theorem empty : empty.Records [] [] :=
  ⟨rfl, toList_edges _⟩

theorem mem_vertices (records : graph.Records names relations) {name : String} :
    name ∈ graph.vertices ↔ name ∈ names := by
  rw [← Array.mem_toList_iff, records.vertices, List.mem_eraseDups]

theorem mem_edges (records : graph.Records names relations) {relation : Relation} :
    relation ∈ graph.edges ↔ relation ∈ relations := by
  rw [← Array.mem_toList_iff, records.edges]

protected theorem ensure (records : graph.Records names relations) (name : String) :
    (graph.ensure name).Records (names ++ [name]) relations := by
  have known : graph.contains name = names.contains name := by
    rw [Bool.eq_iff_iff, contains_iff, records.mem_vertices, List.contains_iff_mem]
  refine ⟨?_, by rw [edges_ensure, records.edges]⟩
  rw [vertices_ensure, eraseDups_concat, known]
  split
  · exact records.vertices
  · rw [Array.toList_push, records.vertices]

protected theorem relate (records : graph.Records names relations) (relation : Relation) :
    (graph.relate relation).Records (names ++ [relation.source, relation.target])
      (relations ++ [relation]) := by
  have ends := (records.ensure relation.source).ensure relation.target
  rw [List.append_assoc] at ends
  refine ⟨ends.vertices, ?_⟩
  rw [edges_relate, Array.toList_push, records.edges]

theorem foldl_relate (records : graph.Records names relations) (added : List Relation) :
    (added.foldl CouplingGraph.relate graph).Records
      (names ++ added.flatMap fun relation => [relation.source, relation.target])
      (relations ++ added) := by
  induction added generalizing graph names relations with
  | nil => simpa using records
  | cons relation rest ih => simpa using ih (records.relate relation)

end Records

end CouplingGraph

end ClassMetrics
