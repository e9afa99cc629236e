import ClassMetrics.Proofs.Coupling.Graph
import Mathlib.Algebra.BigOperators.Group.Finset.Piecewise
import Mathlib.Algebra.GroupWithZero.Nat
import Mathlib.Data.Fintype.Basic
import Mathlib.Data.String.Basic

namespace ClassMetrics

/-- Values that are listed once each and leave no entry out share all entries among them. -/
theorem sum_count_eq_length {α : Type} [DecidableEq α] {values entries : List α} (distinct : values.Nodup)
    (covered : ∀ entry ∈ entries, entry ∈ values) :
    (values.map fun value => entries.count value).sum = entries.length := by
  have present : ∀ entry ∈ (entries : Multiset α), entry ∈ values.toFinset := by simpa using covered
  rw [← List.sum_toFinset _ distinct]
  simpa using Multiset.sum_count_eq_card present

instance : Fintype RelationKind where
  elems := RelationKind.all.toFinset
  complete kind := by cases kind <;> decide

def Relation.ends (relation : Relation) : String × String :=
  (relation.source, relation.target)

namespace CouplingGraph

inductive Addition where
  | vertex (name : String)
  | edge (relation : Relation)
deriving Repr, DecidableEq

namespace Addition

def names : Addition → List String
  | .vertex name => [name]
  | .edge relation => [relation.source, relation.target]

def relation? : Addition → Option Relation
  | .vertex _ => none
  | .edge relation => some relation

end Addition

def add (graph : CouplingGraph) : Addition → CouplingGraph
  | .vertex name => graph.ensure name
  | .edge relation => graph.relate relation

def after (additions : List Addition) : CouplingGraph :=
  additions.foldl add empty

variable {graph : CouplingGraph} {names : List String} {relations : List Relation}

/-- Every question about the graph has the answer that the two lists give, and the answers agree. -/
structure Answers (graph : CouplingGraph) (names : List String) (relations : List Relation) : Prop where
  vertices_nodup : graph.vertices.toList.Nodup
  mem_vertices : ∀ name, name ∈ graph.vertices ↔ name ∈ names
  firstMention : graph.vertices.toList.Pairwise fun first second => names.idxOf first < names.idxOf second
  position : ∀ name position, graph.position? name = some position ↔ graph.vertices[position]? = some name
  edges : graph.edges.toList = relations
  edgeCount : graph.edgeCount = relations.length
  countBetween : ∀ source target, graph.countBetween source target =
    (relations.map Relation.ends).count (source, target)
  countOfKind : ∀ source target kind, graph.countOfKind source target kind =
    relations.count ⟨source, target, kind⟩
  countByKind : ∀ kind, graph.countByKind kind = (relations.map Relation.kind).count kind
  outDegree : ∀ name, graph.outDegree name = (relations.map Relation.source).count name
  inDegree : ∀ name, graph.inDegree name = (relations.map Relation.target).count name
  outNeighbours_increasing : ∀ name, (graph.outNeighbours name).Pairwise (· < ·)
  mem_outNeighbours : ∀ name target, target ∈ graph.outNeighbours name ↔
    ∃ kind, ⟨name, target, kind⟩ ∈ relations
  unknown : ∀ name, name ∉ names → graph.outDegree name = 0 ∧ graph.inDegree name = 0 ∧
    graph.outNeighbours name = [] ∧ ∀ other kind,
      graph.countBetween name other = 0 ∧ graph.countBetween other name = 0 ∧
      graph.countOfKind name other kind = 0 ∧ graph.countOfKind other name kind = 0
  sum_kinds : ∀ source target,
    ∑ kind, graph.countOfKind source target kind = graph.countBetween source target
  sum_outDegrees : (graph.vertices.toList.map graph.outDegree).sum = graph.edgeCount
  sum_inDegrees : (graph.vertices.toList.map graph.inDegree).sum = graph.edgeCount

namespace Records

protected theorem add (records : graph.Records names relations) (addition : Addition) :
    (graph.add addition).Records (names ++ addition.names) (relations ++ addition.relation?.toList) := by
  cases addition with
  | vertex name => simpa [Addition.relation?, Addition.names, add] using records.ensure name
  | edge relation => exact records.relate relation

theorem foldl_add (records : graph.Records names relations) (additions : List Addition) :
    (additions.foldl CouplingGraph.add graph).Records (names ++ additions.flatMap Addition.names)
      (relations ++ additions.filterMap Addition.relation?) := by
  induction additions generalizing graph names relations with
  | nil => simpa using records
  | cons addition rest ih =>
      have later := ih (records.add addition)
      rw [List.append_assoc, List.append_assoc, ← List.flatMap_cons] at later
      cases addition <;> exact later

/-- A count of edges that agree in what `view` shows of them. -/
theorem countEdges_eq_count {α : Type} [BEq α] [LawfulBEq α] (records : graph.Records names relations)
    {counted : Relation → Bool} {view : Relation → α} {value : α}
    (shows : ∀ relation, counted relation = true ↔ view relation = value) :
    graph.countEdges counted = (relations.map view).count value := by
  rw [countEdges, records.edges, List.count, List.countP_map]
  apply List.countP_congr
  intro relation _
  rw [shows, Function.comp_apply, beq_iff_eq]

theorem edgeCount_eq (records : graph.Records names relations) : graph.edgeCount = relations.length := by
  rw [graph.edgeCount_eq, ← Array.length_toList, records.edges]

theorem countBetween_eq (records : graph.Records names relations) (source target : String) :
    graph.countBetween source target = (relations.map Relation.ends).count (source, target) := by
  rw [graph.countBetween_eq]
  exact records.countEdges_eq_count (by simp [Relation.ends])

theorem countOfKind_eq (records : graph.Records names relations) (source target : String)
    (kind : RelationKind) :
    graph.countOfKind source target kind = relations.count ⟨source, target, kind⟩ := by
  rw [graph.countOfKind_eq, ← List.map_id relations]
  exact records.countEdges_eq_count (by rintro ⟨⟩; simp [and_assoc])

theorem outDegree_eq (records : graph.Records names relations) (name : String) :
    graph.outDegree name = (relations.map Relation.source).count name := by
  rw [graph.outDegree_eq]
  exact records.countEdges_eq_count (by simp)

theorem inDegree_eq (records : graph.Records names relations) (name : String) :
    graph.inDegree name = (relations.map Relation.target).count name := by
  rw [graph.inDegree_eq]
  exact records.countEdges_eq_count (by simp)

theorem outNeighbours_increasing (graph : CouplingGraph) (name : String) :
    (graph.outNeighbours name).Pairwise (· < ·) := by
  rw [outNeighbours_eq]
  generalize (graph.edges.toList.filter fun edge => edge.source == name).reverse.map (·.target) = targets
  have distinct : (targets.eraseDups.mergeSort fun first second => decide (first ≤ second)).Nodup :=
    (List.mergeSort_perm _ _).nodup_iff.mpr (nodup_eraseDups targets)
  have sorted : (targets.eraseDups.mergeSort fun first second => decide (first ≤ second)).Pairwise
      fun first second => decide (first ≤ second) = true :=
    List.pairwise_mergeSort (by simpa using fun _ _ _ => le_trans) (by simpa using le_total) _
  apply (sorted.and distinct).imp
  intro first second both
  exact lt_of_le_of_ne (of_decide_eq_true both.1) both.2

theorem mem_outNeighbours (records : graph.Records names relations) {name target : String} :
    target ∈ graph.outNeighbours name ↔ ∃ kind, ⟨name, target, kind⟩ ∈ relations := by
  simp only [outNeighbours_eq, List.mem_mergeSort, List.mem_eraseDups, List.mem_map, List.mem_reverse,
    List.mem_filter, records.edges, beq_iff_eq]
  constructor
  · rintro ⟨⟨source, target, kind⟩, ⟨member, rfl⟩, rfl⟩
    exact ⟨kind, member⟩
  · rintro ⟨kind, member⟩
    exact ⟨_, ⟨member, rfl⟩, rfl⟩

theorem position?_kept (records : graph.Records names relations) {later : CouplingGraph} {more : List String}
    {others : List Relation} (grown : later.Records (names ++ more) others) {name : String} {position : Nat}
    (found : graph.position? name = some position) : later.position? name = some position := by
  rw [position?, numbered, ← Array.getElem?_toList, records.vertices] at found
  rw [position?, numbered, ← Array.getElem?_toList, grown.vertices, List.eraseDups_append]
  obtain ⟨bound, _⟩ := List.getElem?_eq_some_iff.mp found
  rw [List.getElem?_append_left bound, found]

theorem sum_counts (records : graph.Records names relations) {view : Relation → String}
    (covered : ∀ relation ∈ relations, view relation ∈ names) :
    (graph.vertices.toList.map fun name => (relations.map view).count name).sum = relations.length := by
  have present : ∀ name ∈ relations.map view, name ∈ graph.vertices.toList := by
    simpa [records.mem_vertices] using covered
  rw [sum_count_eq_length graph.vertices_nodup present, List.length_map]

end Records

/-- The relations from one class to another have one kind each. -/
theorem sum_count_kinds (relations : List Relation) (source target : String) :
    ∑ kind, relations.count ⟨source, target, kind⟩ = (relations.map Relation.ends).count (source, target) := by
  induction relations with
  | nil => simp
  | cons relation rest ih =>
      have first : ∑ kind, (if relation == ⟨source, target, kind⟩ then 1 else 0) =
          if relation.ends == (source, target) then 1 else 0 := by
        obtain ⟨origin, aim, held⟩ := relation
        by_cases between : origin = source ∧ aim = target
        · simp [Relation.ends, between]
        · simp [Relation.ends, ← and_assoc, between]
      simp only [List.count_cons, List.map_cons, Finset.sum_add_distrib, ih, first]

namespace Records

theorem sum_countOfKind (records : graph.Records names relations) (source target : String) :
    ∑ kind, graph.countOfKind source target kind = graph.countBetween source target := by
  simp only [records.countOfKind_eq, records.countBetween_eq, sum_count_kinds]

theorem unknown (records : graph.Records names relations) {name : String}
    (noSource : ∀ relation ∈ relations, relation.source ≠ name)
    (noTarget : ∀ relation ∈ relations, relation.target ≠ name) :
    graph.outDegree name = 0 ∧ graph.inDegree name = 0 ∧ graph.outNeighbours name = [] ∧ ∀ other kind,
      graph.countBetween name other = 0 ∧ graph.countBetween other name = 0 ∧
      graph.countOfKind name other kind = 0 ∧ graph.countOfKind other name kind = 0 := by
  have noNeighbour : graph.outNeighbours name = [] := by
    apply List.eq_nil_iff_forall_not_mem.mpr
    intro target member
    obtain ⟨kind, relationIn⟩ := records.mem_outNeighbours.mp member
    exact noSource _ relationIn rfl
  have noneFrom (other : String) (kind : RelationKind) : graph.countOfKind name other kind = 0 := by
    rw [records.countOfKind_eq, List.count_eq_zero]
    exact fun member => noSource _ member rfl
  have noneTo (other : String) (kind : RelationKind) : graph.countOfKind other name kind = 0 := by
    rw [records.countOfKind_eq, List.count_eq_zero]
    exact fun member => noTarget _ member rfl
  refine ⟨?_, ?_, noNeighbour, fun other kind => ⟨?_, ?_, noneFrom other kind, noneTo other kind⟩⟩
  · simpa [records.outDegree_eq, List.count_eq_zero] using noSource
  · simpa [records.inDegree_eq, List.count_eq_zero] using noTarget
  · rw [← records.sum_countOfKind]
    exact Finset.sum_eq_zero fun kind _ => noneFrom other kind
  · rw [← records.sum_countOfKind]
    exact Finset.sum_eq_zero fun kind _ => noneTo other kind

theorem ends_mentioned (records : graph.Records names relations) (side : End) :
    ∀ relation ∈ relations, relation.get side ∈ names := by
  intro relation member
  exact records.mem_vertices.mp (ends_mem (records.mem_edges.mpr member) side)

protected theorem answers (records : graph.Records names relations) : graph.Answers names relations where
  vertices_nodup := graph.vertices_nodup
  mem_vertices _ := records.mem_vertices
  firstMention := records.vertices ▸ pairwise_idxOf_eraseDups names
  position := graph.numbered
  edges := records.edges
  edgeCount := records.edgeCount_eq
  countBetween := records.countBetween_eq
  countOfKind := records.countOfKind_eq
  countByKind kind := by
    rw [graph.countByKind_eq]
    exact records.countEdges_eq_count (by simp)
  outDegree := records.outDegree_eq
  inDegree := records.inDegree_eq
  outNeighbours_increasing := outNeighbours_increasing graph
  mem_outNeighbours _ _ := records.mem_outNeighbours
  unknown name fresh := records.unknown
    (fun relation member same => fresh (same ▸ records.ends_mentioned .source relation member))
    (fun relation member same => fresh (same ▸ records.ends_mentioned .target relation member))
  sum_kinds := records.sum_countOfKind
  sum_outDegrees := by
    rw [records.edgeCount_eq, ← records.sum_counts (records.ends_mentioned .source), funext records.outDegree_eq]
    rfl
  sum_inDegrees := by
    rw [records.edgeCount_eq, ← records.sum_counts (records.ends_mentioned .target), funext records.inDegree_eq]
    rfl

end Records

/-- After any additions the graph answers as the lists of mentioned names and of relations do. A name that is
entered gets the number of its position, and what has a position keeps it. -/
theorem after_answers_history (additions : List Addition) :
    (after additions).Answers (additions.flatMap Addition.names) (additions.filterMap Addition.relation?) ∧
      (∀ name, ((after additions).enter name).2 = after (additions ++ [.vertex name]) ∧
        (after (additions ++ [.vertex name])).position? name = some ((after additions).enter name).1) ∧
      ∀ name position, (after additions).position? name = some position →
        ∀ later : List Addition, (later.foldl add (after additions)).position? name = some position := by
  have records : (after additions).Records _ _ := Records.empty.foldl_add additions
  rw [List.nil_append, List.nil_append] at records
  refine ⟨records.answers, ?_, ?_⟩
  · intro name
    have entered : after (additions ++ [.vertex name]) = (after additions).ensure name := by
      rw [after, List.foldl_append]
      rfl
    exact ⟨entered.symm, entered ▸ (after additions).position?_enter name⟩
  · intro name position found later
    exact records.position?_kept (records.foldl_add later) found

/-- Parallel relations, a relation of a class to itself, and a class without relations. -/
def mixedAdditions : List Addition :=
  [.vertex "z", .edge ⟨"a", "b", .callsMethod⟩, .edge ⟨"a", "b", .callsMethod⟩, .edge ⟨"b", "b", .superclass⟩,
    .vertex "a", .edge ⟨"a", "b", .localVariable⟩]

theorem mixedAdditions_answer_history :
    (after mixedAdditions).Answers ["z", "a", "b", "a", "b", "b", "b", "a", "a", "b"]
        [⟨"a", "b", .callsMethod⟩, ⟨"a", "b", .callsMethod⟩, ⟨"b", "b", .superclass⟩,
          ⟨"a", "b", .localVariable⟩] ∧
      (after mixedAdditions).position? "a" = some 1 ∧
      ([.edge ⟨"c", "a", .superclass⟩, .vertex "a"].foldl add (after mixedAdditions)).position? "a" = some 1 := by
  obtain ⟨answers, _, kept⟩ := after_answers_history mixedAdditions
  have found : (after mixedAdditions).position? "a" = some 1 := by decide +kernel
  exact ⟨answers, found, kept "a" 1 found _⟩

end CouplingGraph

end ClassMetrics
