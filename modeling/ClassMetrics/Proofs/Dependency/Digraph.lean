import ClassMetrics.Proofs.Dependency.Frame
import Mathlib.Data.Finset.Card
import Mathlib.Data.Finset.Image

namespace ClassMetrics

/-!
The dependency graph as two sets. A `SimpleDigraph` knows nothing of slots, free lists and ages. Whatever is
added and removed, the graph lists the names and the pairs of the digraph, each once, and a name stays in its
slot until it is removed.
-/

structure SimpleDigraph where
  names : Finset String
  pairs : Finset (String × String)
  noLoop : ∀ pair ∈ pairs, pair.1 ≠ pair.2
  ends : ∀ pair ∈ pairs, pair.1 ∈ names ∧ pair.2 ∈ names

namespace SimpleDigraph

def empty : SimpleDigraph :=
  ⟨∅, ∅, by simp, by simp⟩

def add (digraph : SimpleDigraph) (name : String) : SimpleDigraph where
  names := insert name digraph.names
  pairs := digraph.pairs
  noLoop := digraph.noLoop
  ends := fun pair member =>
    ⟨Finset.mem_insert_of_mem (digraph.ends pair member).1,
      Finset.mem_insert_of_mem (digraph.ends pair member).2⟩

/-- Inserts both ends, and the pair if they differ. -/
def link (digraph : SimpleDigraph) (source target : String) : SimpleDigraph where
  names := insert source (insert target digraph.names)
  pairs := if source = target then digraph.pairs else insert (source, target) digraph.pairs
  noLoop := by
    intro pair member
    split at member
    · exact digraph.noLoop pair member
    · rename_i different
      rcases Finset.mem_insert.mp member with rfl | old
      · exact different
      · exact digraph.noLoop pair old
  ends := by
    intro pair member
    split at member
    · have old := digraph.ends pair member
      simp [old]
    · rcases Finset.mem_insert.mp member with rfl | old
      · simp
      · have old := digraph.ends pair old
        simp [old]

/-- Deletes a name with its incident pairs. -/
def delete (digraph : SimpleDigraph) (name : String) : SimpleDigraph where
  names := digraph.names.erase name
  pairs := {pair ∈ digraph.pairs | pair.1 ≠ name ∧ pair.2 ≠ name}
  noLoop := fun pair member => digraph.noLoop pair (Finset.mem_filter.mp member).1
  ends := by
    intro pair member
    obtain ⟨old, sourceOther, targetOther⟩ := Finset.mem_filter.mp member
    have ends := digraph.ends pair old
    exact ⟨Finset.mem_erase.mpr ⟨sourceOther, ends.1⟩, Finset.mem_erase.mpr ⟨targetOther, ends.2⟩⟩

end SimpleDigraph

inductive Change where
  | ensure (name : String)
  | connect (source target : String)
  | remove (name : String)
deriving Repr, DecidableEq

def SimpleDigraph.change (digraph : SimpleDigraph) : Change → SimpleDigraph
  | .ensure name => digraph.add name
  | .connect source target => digraph.link source target
  | .remove name => digraph.delete name

def SimpleDigraph.after (changes : List Change) : SimpleDigraph :=
  changes.foldl change empty

def Arc.pair (arc : Arc) : String × String :=
  (arc.source, arc.target)

theorem Arc.pair_injective : Function.Injective Arc.pair := by
  intro first second same
  cases first
  cases second
  simpa [Arc.pair] using same

namespace DependencyGraph

def change (graph : DependencyGraph) : Change → DependencyGraph
  | .ensure name => graph.ensure name
  | .connect source target => graph.connect source target
  | .remove name => graph.remove name

def after (changes : List Change) : DependencyGraph :=
  changes.foldl change empty

/-- Every question about the graph has the answer that the two sets give. Connecting reports `accepts`, and
removing reports `contains`. -/
structure Represents (graph : DependencyGraph) (digraph : SimpleDigraph) : Prop where
  vertices_nodup : graph.vertices.Nodup
  mem_vertices : ∀ name, name ∈ graph.vertices ↔ name ∈ digraph.names
  arcs_nodup : graph.arcs.Nodup
  mem_arcs : ∀ source target, ⟨source, target⟩ ∈ graph.arcs ↔ (source, target) ∈ digraph.pairs
  contains : ∀ name, graph.contains name = true ↔ name ∈ digraph.names
  hasArc : ∀ source target, graph.hasArc ⟨source, target⟩ = true ↔ (source, target) ∈ digraph.pairs
  accepts : ∀ source target, graph.accepts source target = true ↔
    source ≠ target ∧ (source, target) ∉ digraph.pairs
  successors_nodup : ∀ name, (graph.successors name).Nodup
  mem_successors : ∀ name target, target ∈ graph.successors name ↔ (name, target) ∈ digraph.pairs
  predecessors_nodup : ∀ name, (graph.predecessors name).Nodup
  mem_predecessors : ∀ name source, source ∈ graph.predecessors name ↔ (source, name) ∈ digraph.pairs
  vertexCount : graph.vertexCount = digraph.names.card
  arcCount : graph.arcCount = digraph.pairs.card
  outDegree : ∀ name, graph.outDegree name = {pair ∈ digraph.pairs | pair.1 = name}.card
  inDegree : ∀ name, graph.inDegree name = {pair ∈ digraph.pairs | pair.2 = name}.card

variable {graph : DependencyGraph} {digraph : SimpleDigraph} {name source target : String}

section Listings

/-- Arcs without repetition are as many as the set of their pairs has members. -/
private theorem length_eq_card {listed : List Arc} {pairs : Finset (String × String)}
    (distinct : listed.Nodup)
    (members : ∀ source target, ⟨source, target⟩ ∈ listed ↔ (source, target) ∈ pairs) :
    listed.length = pairs.card := by
  have same : (listed.map Arc.pair).toFinset = pairs := by
    ext ⟨source, target⟩
    rw [List.mem_toFinset, ← members]
    exact List.mem_map_of_injective Arc.pair_injective (a := ⟨source, target⟩)
  rw [← same, List.toFinset_card_of_nodup (distinct.map Arc.pair_injective), List.length_map]

private theorem degree_eq_card (wellFormed : graph.WellFormed)
    (pairs : ∀ source target, ⟨source, target⟩ ∈ graph.arcs ↔ (source, target) ∈ digraph.pairs) (side : End)
    (chosen : String × String → String) (reads : ∀ arc, Arc.get arc side = chosen arc.pair) :
    (graph.neighbours side name).length = {pair ∈ digraph.pairs | chosen pair = name}.card := by
  rw [(wellFormed.neighbours_perm side name).length_eq, List.length_map]
  apply length_eq_card (wellFormed.arcs_nodup.filter _)
  intro source target
  rw [List.mem_filter, Finset.mem_filter, pairs, beq_iff_eq, reads]
  rfl

end Listings

theorem represents_of_members (wellFormed : graph.WellFormed)
    (names : ∀ name, name ∈ graph.vertices ↔ name ∈ digraph.names)
    (pairs : ∀ source target, ⟨source, target⟩ ∈ graph.arcs ↔ (source, target) ∈ digraph.pairs) :
    graph.Represents digraph where
  vertices_nodup := graph.vertices_nodup
  mem_vertices := names
  arcs_nodup := wellFormed.arcs_nodup
  mem_arcs := pairs
  contains name := contains_iff.trans (names name)
  hasArc source target := by rw [wellFormed.hasArc_iff, pairs]
  accepts source target := by rw [accepts_iff wellFormed, pairs]
  successors_nodup := wellFormed.neighbours_nodup .source
  mem_successors name target := by rw [wellFormed.mem_successors, pairs]
  predecessors_nodup := wellFormed.neighbours_nodup .target
  mem_predecessors name source := by rw [wellFormed.mem_predecessors, pairs]
  vertexCount := by
    have same : graph.vertices.toFinset = digraph.names := by
      ext name
      rw [List.mem_toFinset, names]
    rw [← same, List.toFinset_card_of_nodup graph.vertices_nodup]
    rfl
  arcCount := length_eq_card wellFormed.arcs_nodup pairs
  outDegree name := degree_eq_card wellFormed pairs .source Prod.fst fun _ => rfl
  inDegree name := degree_eq_card wellFormed pairs .target Prod.snd fun _ => rfl

section Changes

theorem mem_vertices_connect (wellFormed : graph.WellFormed) :
    name ∈ (graph.connect source target).vertices ↔
      name = source ∨ name = target ∨ name ∈ graph.vertices := by
  have ends : (graph.connect source target).vertices = ((graph.ensure source).ensure target).vertices := by
    cases accepted : graph.accepts source target with
    | false => rw [connect_refused wellFormed accepted]
    | true =>
        obtain ⟨_, _, same, _⟩ := connect_accepted wellFormed accepted
        rw [same]
        rfl
  rw [ends, mem_vertices_ensure, mem_vertices_ensure]
  exact or_left_comm

theorem mem_arcs_connect (wellFormed : graph.WellFormed) {arc : Arc} :
    arc ∈ (graph.connect source target).arcs ↔
      arc ∈ graph.arcs ∨ arc = ⟨source, target⟩ ∧ source ≠ target := by
  cases accepted : graph.accepts source target with
  | true =>
      have different := ((accepts_iff wellFormed).mp accepted).1
      obtain ⟨before, after, old, grown⟩ := (gainsArc_connect wellFormed accepted).arcs
      rw [old, grown, List.mem_append, List.mem_append, List.mem_cons]
      grind
  | false =>
      rw [(sameArcs_connect wellFormed accepted).arcs]
      constructor
      · exact Or.inl
      · intro either
        rcases either with old | ⟨rfl, different⟩
        · exact old
        · by_contra absent
          rw [(accepts_iff wellFormed).mpr ⟨different, absent⟩] at accepted
          cases accepted

theorem Represents.empty : empty.Represents .empty :=
  represents_of_members .empty
    (fun name => by
      change name ∈ [] ↔ name ∈ (∅ : Finset String)
      simp)
    (fun source target => by
      change Arc.mk source target ∈ [] ↔ (source, target) ∈ (∅ : Finset (String × String))
      simp)

theorem Represents.change (represents : graph.Represents digraph) (wellFormed : graph.WellFormed)
    (step : Change) : (graph.change step).Represents (digraph.change step) := by
  cases step with
  | ensure name =>
      apply represents_of_members (wellFormed.ensure name)
      · intro held
        rw [mem_vertices_ensure, represents.mem_vertices]
        exact Finset.mem_insert.symm
      · intro source target
        rw [arcs_ensure wellFormed]
        exact represents.mem_arcs source target
  | connect source target =>
      apply represents_of_members (wellFormed.connect source target)
      · intro held
        rw [mem_vertices_connect wellFormed, represents.mem_vertices]
        simp [SimpleDigraph.change, SimpleDigraph.link]
      · intro first second
        rw [mem_arcs_connect wellFormed, represents.mem_arcs]
        by_cases same : source = target
        · simp [SimpleDigraph.change, SimpleDigraph.link, same]
        · simp [SimpleDigraph.change, SimpleDigraph.link, same, or_comm]
  | remove name =>
      apply represents_of_members (wellFormed.remove name)
      · intro held
        rw [vertices_remove, List.mem_filter, represents.mem_vertices]
        simp [SimpleDigraph.change, SimpleDigraph.delete, and_comm]
      · intro source target
        rw [mem_arcs_remove wellFormed, represents.mem_arcs]
        simp [SimpleDigraph.change, SimpleDigraph.delete]

theorem WellFormed.change (wellFormed : graph.WellFormed) (step : Change) :
    (graph.change step).WellFormed := by
  cases step with
  | ensure name => exact wellFormed.ensure name
  | connect source target => exact wellFormed.connect source target
  | remove name => exact wellFormed.remove name

theorem WellFormed.foldl_change (wellFormed : graph.WellFormed) (changes : List Change) :
    (changes.foldl DependencyGraph.change graph).WellFormed := by
  induction changes generalizing graph with
  | nil => exact wellFormed
  | cons step rest ih => exact ih (wellFormed.change step)

theorem Represents.foldl_change (represents : graph.Represents digraph) (wellFormed : graph.WellFormed)
    (changes : List Change) :
    (changes.foldl DependencyGraph.change graph).Represents
      (changes.foldl SimpleDigraph.change digraph) := by
  induction changes generalizing graph digraph with
  | nil => exact represents
  | cons step rest ih => exact ih (represents.change wellFormed step) (wellFormed.change step)

end Changes

section SlotNumbers

variable {slot : Nat}

theorem slot?_change (wellFormed : graph.WellFormed) {step : Change} (kept : step ≠ .remove name)
    (found : graph.slot? name = some slot) : (graph.change step).slot? name = some slot := by
  cases step with
  | ensure other => exact slot?_ensure found other
  | connect source target =>
      have ends := slot?_ensure (slot?_ensure found source) target
      cases accepted : graph.accepts source target with
      | false => rwa [change, connect_refused wellFormed accepted]
      | true =>
          obtain ⟨_, _, same, _⟩ := connect_accepted wellFormed accepted
          rwa [change, same]
  | remove other =>
      have different : name ≠ other := by
        intro same
        exact kept (by rw [same])
      exact (slot?_remove other different).trans found

theorem slot?_foldl_change (wellFormed : graph.WellFormed) {changes : List Change}
    (kept : .remove name ∉ changes) (found : graph.slot? name = some slot) :
    (changes.foldl change graph).slot? name = some slot := by
  induction changes generalizing graph with
  | nil => exact found
  | cons step rest ih =>
      obtain ⟨stepKept, restKept⟩ := not_or.mp (mt List.mem_cons.mpr kept)
      exact ih (wellFormed.change step) restKept (slot?_change wellFormed (Ne.symm stepKept) found)

theorem slot?_injective {first second : String} (present : first ∈ graph.vertices)
    (same : graph.slot? first = graph.slot? second) : first = second := by
  obtain ⟨slot, found⟩ := Option.isSome_iff_exists.mp (mem_vertices.mp present)
  have one := NameTable.slot?_eq_some_iff.mp found
  have other := NameTable.slot?_eq_some_iff.mp (same.symm.trans found)
  exact Option.some.inj (one.symm.trans other)

end SlotNumbers

/-- After any changes the graph answers as the two sets do, in which no pair joins a name to itself or
leaves the names. A name that is added has a slot, no two present names share one, and as long as the name is
not removed, adding it again gives the same slot. -/
theorem after_represents_digraph (changes : List Change) :
    (after changes).Represents (SimpleDigraph.after changes) ∧
      (∀ arc ∈ (after changes).arcs, arc.source ≠ arc.target ∧
        arc.source ∈ (after changes).vertices ∧ arc.target ∈ (after changes).vertices) ∧
      (∀ name, ∃ slot, ((after changes).ensure name).slot? name = some slot ∧
        ∀ later : List Change, .remove name ∉ later →
          (((later.foldl change ((after changes).ensure name)).ensure name).slot? name = some slot)) ∧
      (∀ first ∈ (after changes).vertices, ∀ second ∈ (after changes).vertices, first ≠ second →
        (after changes).slot? first ≠ (after changes).slot? second) := by
  have wellFormed : (after changes).WellFormed := WellFormed.empty.foldl_change changes
  refine ⟨Represents.empty.foldl_change .empty changes, ?_, ?_, ?_⟩
  · intro arc member
    exact ⟨wellFormed.noLoop arc member, wellFormed.source_mem arc member,
      wellFormed.target_mem arc member⟩
  · intro name
    have added := wellFormed.ensure name
    have found := (after changes).slot?_ensure_self name
    refine ⟨_, found, fun later kept => ?_⟩
    exact slot?_ensure (slot?_foldl_change added kept found) name
  · intro first present second _ different same
    exact different (slot?_injective present same)

def churn : List Change :=
  [.connect "a" "b", .connect "b" "c", .remove "b", .connect "d" "a"]

theorem churn_represents_digraph :
    (after churn).Represents (SimpleDigraph.after churn) ∧ (after churn).slot? "d" = some 1 ∧
      (([.connect "a" "b", .remove "d"].foldl change ((after churn).ensure "a")).ensure "a").slot? "a" =
        ((after churn).ensure "a").slot? "a" := by
  obtain ⟨represents, _, added, _⟩ := after_represents_digraph churn
  obtain ⟨slot, found, kept⟩ := added "a"
  exact ⟨represents, by decide +kernel, (kept _ (by decide)).trans found.symm⟩

end DependencyGraph

end ClassMetrics
