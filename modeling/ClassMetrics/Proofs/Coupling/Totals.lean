import ClassMetrics.Proofs.Coupling.History
import ClassMetrics.Proofs.Reordering
import Mathlib.Data.Set.Card

namespace ClassMetrics

/-- The two classes, in no order. -/
def Relation.joined (relation : Relation) : Sym2 String :=
  s(relation.source, relation.target)

theorem RelationKind.mem_all (kind : RelationKind) : kind ∈ all := by
  cases kind <;> decide

theorem sum_filter_pos (numbers : List Nat) : (numbers.filter (0 < ·)).sum = numbers.sum := by
  induction numbers with
  | nil => rfl
  | cons number rest ih =>
      cases number with
      | zero => simpa using ih
      | succ number => simpa using ih

namespace CouplingGraph

variable {graph : CouplingGraph} {first second : String}

section Pairs

/-- The edges between different classes. -/
def links (graph : CouplingGraph) : List (Sym2 String) :=
  (graph.edges.toList.filter fun edge => edge.source ≠ edge.target).map Relation.joined

theorem length_links_add_loops (graph : CouplingGraph) :
    graph.links.length + (graph.countEdges fun edge => edge.source = edge.target) = graph.edgeCount := by
  rw [links, List.length_map, ← List.countP_eq_length_filter, countEdges, edgeCount_eq, ← Array.length_toList,
    List.length_eq_countP_add_countP fun edge : Relation => edge.source = edge.target, Nat.add_comm]
  simp

theorem count_links (different : first ≠ second) :
    graph.links.count s(first, second) = graph.countEdges fun edge => edge.joined = s(first, second) := by
  rw [links, List.count, List.countP_map, List.countP_filter]
  apply List.countP_congr
  intro edge _
  simp only [Function.comp_apply, Bool.and_eq_true, beq_iff_eq, decide_eq_true_eq, and_iff_left_iff_imp]
  intro joined loop
  rw [Relation.joined, loop, Sym2.eq_iff] at joined
  rcases joined with ⟨rfl, same⟩ | ⟨rfl, same⟩
  · exact different same
  · exact different same.symm

/-- What joins two classes leads one way or the other. -/
theorem countBetween_add_countBetween (different : first ≠ second) :
    graph.countBetween first second + graph.countBetween second first =
      graph.countEdges fun edge => edge.joined = s(first, second) := by
  rw [countBetween_eq, countBetween_eq, countEdges, countEdges, countEdges,
    List.countP_eq_countP_filter_add _ (fun edge : Relation => decide (edge.joined = _)) fun edge : Relation =>
    edge.source == first && edge.target == second, List.countP_filter, List.countP_filter]
  congr 1
  · apply List.countP_congr
    intro edge _
    simp only [Relation.joined, Sym2.eq_iff, Bool.and_eq_true, beq_iff_eq, decide_eq_true_eq]
    tauto
  · apply List.countP_congr
    intro edge _
    simp only [Relation.joined, Sym2.eq_iff, Bool.and_eq_true, Bool.not_eq_true', Bool.and_eq_false_iff,
      beq_iff_eq, beq_eq_false_iff_ne, decide_eq_true_eq]
    constructor
    · intro back
      exact ⟨.inr back, .inl (back.1 ▸ different.symm)⟩
    · intro either
      tauto

theorem pairScores_listed (graph : CouplingGraph) :
    ListsPairs graph.vertices.toList (graph.pairScores.map fun pair => (pair.first, pair.second)) := by
  have listed : (graph.pairScores.map fun pair => (pair.first, pair.second)) = pairs graph.vertices.toList := by
    rw [pairScores, List.map_map]
    exact List.map_id _
  rw [listed]
  exact listsPairs_pairs graph.vertices_nodup

theorem score_eq {pair : PairScore} (listed : pair ∈ graph.pairScores) :
    pair.first ≠ pair.second ∧
      pair.score = graph.countEdges fun edge => edge.joined = s(pair.first, pair.second) := by
  obtain ⟨⟨first, second⟩, member, rfl⟩ := List.mem_map.mp listed
  have different : first ≠ second := by
    rintro rfl
    exact Nat.lt_irrefl _ (idxOf_lt_of_mem_pairs graph.vertices_nodup member)
  exact ⟨different, countBetween_add_countBetween different⟩

theorem sum_scores (graph : CouplingGraph) : (graph.pairScores.map (·.score)).sum = graph.links.length := by
  have scores : graph.pairScores.map (·.score) =
      ((pairs graph.vertices.toList).map unordered).map fun link => graph.links.count link := by
    have counted : graph.pairScores.map (·.score) =
        graph.pairScores.map fun pair => graph.links.count s(pair.first, pair.second) := by
      apply List.map_congr_left
      intro pair listed
      obtain ⟨different, score⟩ := score_eq listed
      rw [score, count_links different]
    rw [counted, pairScores, List.map_map, List.map_map]
    rfl
  rw [scores]
  apply sum_count_eq_length (nodup_unordered_pairs graph.vertices_nodup)
  intro link member
  obtain ⟨edge, kept, rfl⟩ := List.mem_map.mp member
  obtain ⟨edgeIn, noLoop⟩ := List.mem_filter.mp kept
  have ends (side : End) : edge.get side ∈ graph.vertices.toList :=
    Array.mem_toList_iff.mpr (ends_mem (Array.mem_toList_iff.mp edgeIn) side)
  exact mem_unordered_pairs (ends .source) (ends .target) (of_decide_eq_true noLoop)

end Pairs

section Targets

/-- Where the edges of a class lead, once for each edge. -/
def targets (graph : CouplingGraph) (name : String) : List String :=
  (graph.edges.toList.filter fun edge => edge.source == name).map (·.target)

theorem length_targets (graph : CouplingGraph) (name : String) :
    (graph.targets name).length = graph.outDegree name := by
  rw [targets, List.length_map, ← List.countP_eq_length_filter, outDegree_eq, countEdges]

theorem cbo_eq_card (graph : CouplingGraph) (name : String) :
    graph.cbo name = (graph.targets name).toFinset.card := by
  have same : (graph.targets name).reverse.eraseDups.toFinset = (graph.targets name).toFinset := by
    ext target
    simp [List.mem_eraseDups]
  rw [← same, List.toFinset_card_of_nodup (nodup_eraseDups _), cbo, outNeighbours_eq, List.length_mergeSort,
    List.map_reverse, targets]

theorem cbo_eq_ncard (graph : CouplingGraph) (name : String) :
    graph.cbo name = Set.ncard {target | ∃ kind, ⟨name, target, kind⟩ ∈ graph.edges} := by
  have same : {target | ∃ kind, ⟨name, target, kind⟩ ∈ graph.edges} =
      ((graph.targets name).toFinset : Set String) := by
    ext target
    simp only [List.coe_toFinset, targets, List.mem_map, List.mem_filter, Array.mem_toList_iff, beq_iff_eq]
    constructor
    · intro found
      obtain ⟨kind, member⟩ := found
      exact ⟨_, ⟨member, rfl⟩, rfl⟩
    · intro found
      obtain ⟨⟨source, target, kind⟩, ⟨member, rfl⟩, rfl⟩ := found
      exact ⟨kind, member⟩
  rw [cbo_eq_card, same, Set.ncard_coe_finset]

theorem cbo_le_outDegree (graph : CouplingGraph) (name : String) : graph.cbo name ≤ graph.outDegree name := by
  rw [cbo_eq_card, ← length_targets]
  exact List.toFinset_card_le _

theorem cbo_eq_zero_iff (graph : CouplingGraph) (name : String) :
    graph.cbo name = 0 ↔ graph.outDegree name = 0 := by
  rw [cbo_eq_card, ← length_targets, Finset.card_eq_zero, List.toFinset_eq_empty_iff,
    List.length_eq_zero_iff]

end Targets

section Kinds

theorem sum_countByKind (graph : CouplingGraph) :
    (RelationKind.all.map graph.countByKind).sum = graph.edgeCount := by
  have counts : graph.countByKind = fun kind => (graph.edges.toList.map Relation.kind).count kind := by
    funext kind
    rw [countByKind_eq, List.count, List.countP_map]
    rfl
  rw [counts, sum_count_eq_length (by decide) fun kind _ => kind.mem_all, List.length_map,
    Array.length_toList, edgeCount_eq]

end Kinds

/-- The figures of an analysis agree with the edges of the graph, and with each other. -/
structure Balanced (graph : CouplingGraph) (analysis : CouplingAnalysis) : Prop where
  pairs_listed : ListsPairs graph.vertices.toList (analysis.pairs.map fun pair => (pair.first, pair.second))
  score : ∀ pair ∈ analysis.pairs,
    pair.score = graph.countEdges fun edge => edge.joined = s(pair.first, pair.second)
  conserved : (analysis.pairs.map (·.score)).sum + (graph.countEdges fun edge => edge.source = edge.target) =
    graph.edgeCount
  classes_listed : (analysis.classes.map (·.className)).Perm graph.vertices.toList
  cbo : ∀ entry ∈ analysis.classes,
    entry.cbo = Set.ncard {target | ∃ kind, ⟨entry.className, target, kind⟩ ∈ graph.edges}
  cbo_le : ∀ entry ∈ analysis.classes, entry.cbo ≤ graph.outDegree entry.className
  cbo_zero : ∀ entry ∈ analysis.classes, entry.cbo = 0 ↔ graph.outDegree entry.className = 0
  relationCount : analysis.summary.relationCount = graph.edgeCount
  kinds_sum : (analysis.summary.relationsByKind.map (·.2)).sum = analysis.summary.relationCount
  kinds_once : (analysis.summary.relationsByKind.map (·.1)).Nodup
  kind_listed : ∀ kind count, (kind, count) ∈ analysis.summary.relationsByKind ↔
    count = graph.countByKind kind ∧ 0 < count

end CouplingGraph

namespace CouplingAnalysis

open CouplingGraph

variable {graph : CouplingGraph}

theorem cbo_of_mem_classes {entry : ClassCoupling} (listed : entry ∈ (ofGraph graph).classes) :
    entry.cbo = graph.cbo entry.className := by
  simp only [ofGraph, List.mem_mergeSort, List.mem_map] at listed
  obtain ⟨name, _, rfl⟩ := listed
  rfl

theorem names_ofGraph (graph : CouplingGraph) :
    ((ofGraph graph).classes.map (·.className)).Perm graph.vertices.toList := by
  have ranked := (List.mergeSort_perm (graph.vertices.toList.map (ClassCoupling.ofGraph graph))
    ClassCoupling.precedes).map (·.className)
  rw [List.map_map] at ranked
  exact ranked.trans (.of_eq (List.map_id _))

section Kinds

variable {kind : RelationKind} {count : Nat}

theorem sum_kinds_ofGraph (graph : CouplingGraph) :
    ((ofGraph graph).summary.relationsByKind.map (·.2)).sum = graph.edgeCount := by
  have counts : (ofGraph graph).summary.relationsByKind.map (·.2) =
      (RelationKind.all.map graph.countByKind).filter (0 < ·) := by
    simp only [ofGraph, summarize, List.filter_map, List.map_map]
    rfl
  rw [counts, sum_filter_pos, sum_countByKind]

theorem nodup_kinds_ofGraph (graph : CouplingGraph) :
    ((ofGraph graph).summary.relationsByKind.map (·.1)).Nodup := by
  have kinds : (RelationKind.all.map fun kind => (kind, graph.countByKind kind)).map (·.1) =
      RelationKind.all := List.map_map.trans (List.map_id _)
  have distinct : RelationKind.all.Nodup := by decide
  rw [← kinds] at distinct
  exact distinct.sublist (List.filter_sublist.map _)

theorem mem_kinds_ofGraph :
    (kind, count) ∈ (ofGraph graph).summary.relationsByKind ↔ count = graph.countByKind kind ∧ 0 < count := by
  simp [ofGraph, summarize, kind.mem_all, eq_comm]

end Kinds

/-- After any additions the pairs of vertices share the edges between them, up to those that lead back to where
they start, and so do the kinds of relations; the score of a class counts where its edges lead. -/
theorem after_balanced (additions : List Addition) : (after additions).Balanced (ofGraph (after additions)) where
  pairs_listed := pairScores_listed _
  score _ listed := (score_eq listed).2
  conserved := by
    rw [← length_links_add_loops, ← sum_scores]
    rfl
  classes_listed := names_ofGraph _
  cbo _ listed := by rw [cbo_of_mem_classes listed, cbo_eq_ncard]
  cbo_le _ listed := by
    rw [cbo_of_mem_classes listed]
    exact cbo_le_outDegree _ _
  cbo_zero _ listed := by rw [cbo_of_mem_classes listed, cbo_eq_zero_iff]
  relationCount := rfl
  kinds_sum := sum_kinds_ofGraph _
  kinds_once := nodup_kinds_ofGraph _
  kind_listed _ _ := mem_kinds_ofGraph

end CouplingAnalysis

end ClassMetrics
