import ClassMetrics.Dependency.Ordering
import ClassMetrics.Proofs.Dependency.Reachable
import ClassMetrics.Proofs.Dependency.Walk
import Mathlib.Algebra.BigOperators.Group.Finset.Basic
import Mathlib.Algebra.Order.BigOperators.Group.Finset

namespace ClassMetrics.DependencyGraph

/-!
The order of the vertices as a run that takes one vertex off at a time. Sinks and sources come off in
batches; a batch is as good as its members one by one, since the removal of a vertex takes arcs away and
so leaves the other sinks and sources what they are.
-/

variable {graph : DependencyGraph} {name : String} {names order : List String}

section Degrees

theorem length_neighbours (wellFormed : graph.WellFormed) (side : End) :
    (graph.neighbours side name).length = (graph.arcs.map (·.get side)).count name := by
  rw [(wellFormed.neighbours_perm side name).length_eq, List.length_map, ← List.countP_eq_length_filter, List.count,
    List.countP_map]
  rfl

theorem outDegree_eq_count (wellFormed : graph.WellFormed) :
    graph.outDegree name = (graph.arcs.map (·.source)).count name :=
  length_neighbours wellFormed .source

theorem inDegree_eq_count (wellFormed : graph.WellFormed) :
    graph.inDegree name = (graph.arcs.map (·.target)).count name :=
  length_neighbours wellFormed .target

theorem outDegree_eq_zero_iff (wellFormed : graph.WellFormed) :
    graph.outDegree name = 0 ↔ ∀ arc ∈ graph.arcs, arc.source ≠ name := by
  rw [outDegree_eq_count wellFormed, List.count_eq_zero]
  simp

theorem inDegree_eq_zero_iff (wellFormed : graph.WellFormed) :
    graph.inDegree name = 0 ↔ ∀ arc ∈ graph.arcs, arc.target ≠ name := by
  rw [inDegree_eq_count wellFormed, List.count_eq_zero]
  simp

/-- Every arc has one source and one target. -/
theorem sum_count_ends (chosen : Arc → String)
    (present : ∀ arc ∈ graph.arcs, chosen arc ∈ graph.vertices) :
    ∑ name ∈ graph.vertices.toFinset, (graph.arcs.map chosen).count name = graph.arcCount := by
  have counted := Multiset.sum_count_eq_card (s := graph.vertices.toFinset)
    (m := (graph.arcs.map chosen : Multiset String)) (by simpa using present)
  simpa [arcCount] using counted

end Degrees

section HighestDelta

theorem firstMaximum_eq_none_iff {score : String → Int} :
    firstMaximum score names = none ↔ names = [] := by
  cases names with
  | nil => simp [firstMaximum]
  | cons name rest =>
      simp only [firstMaximum, reduceCtorEq, iff_false]
      split
      · simp
      · split <;> simp

theorem le_firstMaximum {score : String → Int} {best : String}
    (found : firstMaximum score names = some best) : ∀ name ∈ names, score name ≤ score best := by
  induction names generalizing best with
  | nil => simp
  | cons first rest ih =>
      intro name member
      unfold firstMaximum at found
      split at found
      · rename_i none
        cases found
        rw [firstMaximum_eq_none_iff.mp none] at member
        rw [List.mem_singleton.mp member]
      · rename_i later chosen
        have bounded := ih chosen
        split at found <;> rcases List.mem_cons.mp member with rfl | inRest
        · cases found
          omega
        · cases found
          exact bounded name inRest
        · cases found
          exact Int.le_refl _
        · cases found
          have below := bounded name inRest
          omega

/-- A name gives way to a greater score behind it and to no other. -/
theorem exists_split_firstMaximum {score : String → Int} {best : String}
    (found : firstMaximum score names = some best) :
    ∃ before after, names = before ++ best :: after ∧ ∀ other ∈ before, score other < score best := by
  induction names generalizing best with
  | nil => contradiction
  | cons first rest ih =>
      unfold firstMaximum at found
      split at found
      · cases found
        exact ⟨[], rest, rfl, by simp⟩
      · rename_i later chosen
        obtain ⟨before, after, rfl, less⟩ := ih chosen
        split at found
        · rename_i lower
          cases found
          exact ⟨first :: before, after, rfl, List.forall_mem_cons.mpr ⟨lower, less⟩⟩
        · cases found
          exact ⟨[], before ++ later :: after, rfl, by simp⟩

/-- Outgoing and incoming arcs are equally many in all, so they are not fewer everywhere. -/
theorem inDegree_le_outDegree_of_highest (wellFormed : graph.WellFormed)
    (highest : graph.highestDelta? = some name) : graph.inDegree name ≤ graph.outDegree name := by
  have present : name ∈ graph.vertices.toFinset := by simpa using firstMaximum_mem highest
  have balanced : ∑ name ∈ graph.vertices.toFinset, graph.inDegree name ≤
      ∑ name ∈ graph.vertices.toFinset, graph.outDegree name := by
    simp only [inDegree_eq_count wellFormed, outDegree_eq_count wellFormed]
    rw [sum_count_ends _ wellFormed.target_mem, sum_count_ends _ wellFormed.source_mem]
  obtain ⟨other, member, notFewer⟩ := Finset.exists_le_of_sum_le ⟨name, present⟩ balanced
  have greatest := le_firstMaximum highest other (by simpa using member)
  unfold degreeDelta at greatest
  omega

/-- The search finds nothing in the empty graph and a vertex in any other. The delta of that vertex is not negative,
not less than any delta, and greater than that of every vertex listed before it. -/
theorem highestDelta_is_first_greatest (reachable : graph.Reachable) :
    (graph.highestDelta? = none ↔ graph.vertices = []) ∧
      (graph.vertices ≠ [] → ∃ name before after, graph.highestDelta? = some name ∧
        graph.vertices = before ++ name :: after ∧ 0 ≤ graph.degreeDelta name ∧
        (∀ other ∈ graph.vertices, graph.degreeDelta other ≤ graph.degreeDelta name) ∧
        ∀ other ∈ before, graph.degreeDelta other < graph.degreeDelta name) := by
  have none_iff : graph.highestDelta? = none ↔ graph.vertices = [] := firstMaximum_eq_none_iff
  refine ⟨none_iff, fun nonempty => ?_⟩
  obtain ⟨name, found⟩ := Option.ne_none_iff_exists'.mp (mt none_iff.mp nonempty)
  obtain ⟨before, after, split, less⟩ := exists_split_firstMaximum found
  have balance := inDegree_le_outDegree_of_highest reachable.wellFormed found
  have excess : 0 ≤ graph.degreeDelta name := by
    unfold degreeDelta
    omega
  exact ⟨name, before, after, found, split, excess, le_firstMaximum found, less⟩

/-- The name `d` takes the slot of a name that was removed, and so stands before `e`, which has the same arcs. -/
def tiedDeltas : DependencyGraph :=
  (((((ofArcs [("a", "b"), ("b", "c"), ("c", "a")]).remove "b").connect "d" "a").connect "d" "c").connect
    "e" "a").connect "e" "c"

theorem tiedDeltas_first_greatest :
    tiedDeltas.Reachable ∧ tiedDeltas.vertices = ["a", "d", "c", "e"] ∧
      tiedDeltas.highestDelta? = some "d" ∧ tiedDeltas.degreeDelta "d" = tiedDeltas.degreeDelta "e" ∧
      0 ≤ tiedDeltas.degreeDelta "d" ∧
      (∀ other ∈ tiedDeltas.vertices, tiedDeltas.degreeDelta other ≤ tiedDeltas.degreeDelta "d") ∧
      ∃ before after, tiedDeltas.vertices = before ++ "d" :: after ∧
        ∀ other ∈ before, tiedDeltas.degreeDelta other < tiedDeltas.degreeDelta "d" := by
  have reachable : tiedDeltas.Reachable :=
    (((((Reachable.ofArcs _).remove "b").connect "d" "a").connect "d" "c").connect "e" "a").connect "e" "c"
  have chosen : tiedDeltas.highestDelta? = some "d" := by decide +kernel
  obtain ⟨name, before, after, found, split, excess, greatest, less⟩ :=
    (highestDelta_is_first_greatest reachable).2 (by decide +kernel)
  obtain rfl : name = "d" := Option.some.inj (found.symm.trans chosen)
  exact ⟨reachable, by decide +kernel, chosen, by decide +kernel, excess, greatest, before, after, split, less⟩

end HighestDelta

/-- Orders that come about by taking one vertex off at a time: a sink is put behind all that is left, a
source before it, and where neither is left the vertex with the highest delta is put before it. -/
inductive Arranged : DependencyGraph → List String → Prop where
  | done {graph : DependencyGraph} : graph.vertices = [] → Arranged graph []
  | sink {graph : DependencyGraph} {name : String} {order : List String} :
      name ∈ graph.vertices → graph.outDegree name = 0 →
      Arranged (graph.remove name) order → Arranged graph (order ++ [name])
  | source {graph : DependencyGraph} {name : String} {order : List String} :
      name ∈ graph.vertices → graph.inDegree name = 0 →
      Arranged (graph.remove name) order → Arranged graph (name :: order)
  | highest {graph : DependencyGraph} {name : String} {order : List String} :
      graph.sinks = [] → graph.sources = [] → graph.highestDelta? = some name →
      Arranged (graph.remove name) order → Arranged graph (name :: order)

section Batches

theorem WellFormed.removeAll (wellFormed : graph.WellFormed) (names : List String) :
    (graph.removeAll names).WellFormed := by
  unfold DependencyGraph.removeAll
  induction names generalizing graph with
  | nil => exact wellFormed
  | cons name rest ih => exact ih (wellFormed.remove name)

theorem mem_sinks (wellFormed : graph.WellFormed) :
    name ∈ graph.sinks ↔ name ∈ graph.vertices ∧ ∀ arc ∈ graph.arcs, arc.source ≠ name := by
  rw [sinks, List.mem_filter, beq_iff_eq, outDegree_eq_zero_iff wellFormed]

theorem mem_sources (wellFormed : graph.WellFormed) :
    name ∈ graph.sources ↔ name ∈ graph.vertices ∧ ∀ arc ∈ graph.arcs, arc.target ≠ name := by
  rw [sources, List.mem_filter, beq_iff_eq, inDegree_eq_zero_iff wellFormed]

theorem mem_vertices_remove {held : String} :
    held ∈ (graph.remove name).vertices ↔ held ∈ graph.vertices ∧ held ≠ name := by
  rw [vertices_remove, List.mem_filter, decide_eq_true_iff]

/-- A sink stays one when another vertex goes. -/
theorem mem_sinks_remove (wellFormed : graph.WellFormed) {held : String} (sink : held ∈ graph.sinks)
    (other : held ≠ name) : held ∈ (graph.remove name).sinks := by
  obtain ⟨present, free⟩ := (mem_sinks wellFormed).mp sink
  refine (mem_sinks (wellFormed.remove name)).mpr ⟨mem_vertices_remove.mpr ⟨present, other⟩, ?_⟩
  exact fun arc member => free arc (arcs_remove_subset wellFormed name arc member)

/-- A source stays one when another vertex goes. -/
theorem mem_sources_remove (wellFormed : graph.WellFormed) {held : String}
    (source : held ∈ graph.sources) (other : held ≠ name) : held ∈ (graph.remove name).sources := by
  obtain ⟨present, free⟩ := (mem_sources wellFormed).mp source
  refine (mem_sources (wellFormed.remove name)).mpr ⟨mem_vertices_remove.mpr ⟨present, other⟩, ?_⟩
  exact fun arc member => free arc (arcs_remove_subset wellFormed name arc member)

theorem Arranged.sinks_batch (wellFormed : graph.WellFormed) (distinct : names.Nodup)
    (sinks : ∀ name ∈ names, name ∈ graph.sinks)
    (arranged : Arranged (graph.removeAll names) order) :
    Arranged graph (order ++ names.reverse) := by
  induction names generalizing graph with
  | nil => simpa [removeAll] using arranged
  | cons name rest ih =>
      obtain ⟨fresh, distinct⟩ := List.nodup_cons.mp distinct
      have first := sinks name List.mem_cons_self
      have later : ∀ held ∈ rest, held ∈ (graph.remove name).sinks := fun held member =>
        mem_sinks_remove wellFormed (sinks held (List.mem_cons_of_mem _ member))
          fun same => fresh (same ▸ member)
      have remaining := ih (wellFormed.remove name) distinct later arranged
      rw [List.reverse_cons, ← List.append_assoc]
      exact .sink (List.mem_filter.mp first).1 (eq_of_beq (List.mem_filter.mp first).2) remaining

theorem Arranged.sources_batch (wellFormed : graph.WellFormed) (distinct : names.Nodup)
    (sources : ∀ name ∈ names, name ∈ graph.sources)
    (arranged : Arranged (graph.removeAll names) order) : Arranged graph (names ++ order) := by
  induction names generalizing graph with
  | nil => exact arranged
  | cons name rest ih =>
      obtain ⟨fresh, distinct⟩ := List.nodup_cons.mp distinct
      have first := sources name List.mem_cons_self
      have later : ∀ held ∈ rest, held ∈ (graph.remove name).sources := fun held member =>
        mem_sources_remove wellFormed (sources held (List.mem_cons_of_mem _ member))
          fun same => fresh (same ▸ member)
      have remaining := ih (wellFormed.remove name) distinct later arranged
      exact .source (List.mem_filter.mp first).1 (eq_of_beq (List.mem_filter.mp first).2) remaining

theorem mem_arcs_removeAll (wellFormed : graph.WellFormed) {arc : Arc} :
    arc ∈ (graph.removeAll names).arcs ↔
      arc ∈ graph.arcs ∧ arc.source ∉ names ∧ arc.target ∉ names := by
  unfold removeAll
  induction names generalizing graph with
  | nil => simp
  | cons name rest ih =>
      rw [List.foldl_cons, ih (wellFormed.remove name), mem_arcs_remove wellFormed]
      simp only [List.mem_cons, not_or]
      grind

theorem exists_arc_from (wellFormed : graph.WellFormed) (noSink : graph.sinks = [])
    (present : name ∈ graph.vertices) : ∃ arc ∈ graph.arcs, arc.source = name := by
  by_contra noArc
  have sink : name ∈ graph.sinks :=
    (mem_sinks wellFormed).mpr ⟨present, fun arc member same => noArc ⟨arc, member, same⟩⟩
  simp [noSink] at sink

theorem exists_arc_to (wellFormed : graph.WellFormed) (noSource : graph.sources = [])
    (present : name ∈ graph.vertices) : ∃ arc ∈ graph.arcs, arc.target = name := by
  by_contra noArc
  have source : name ∈ graph.sources :=
    (mem_sources wellFormed).mpr ⟨present, fun arc member same => noArc ⟨arc, member, same⟩⟩
  simp [noSource] at source

/-- Where no walk can end in a sink, every name leads to a cycle. -/
theorem exists_cycle_after (wellFormed : graph.WellFormed) (noSink : graph.sinks = [])
    (present : name ∈ graph.vertices) :
    ∃ member, Relation.ReflTransGen (Leads graph.arcs) name member ∧
      Relation.TransGen (Leads graph.arcs) member member := by
  let after (other : String) : Prop :=
    other ∈ graph.vertices ∧ Relation.ReflTransGen (Leads graph.arcs) name other
  have within : ∀ other, after other → other ∈ graph.vertices := fun _ held => held.1
  have start : after name := ⟨present, .refl⟩
  have onward : ∀ other, after other → ∃ next, after next ∧ Leads graph.arcs other next := by
    rintro other ⟨held, walk⟩
    obtain ⟨arc, leads, rfl⟩ := exists_arc_from wellFormed noSink held
    exact ⟨arc.target, ⟨wellFormed.target_mem arc leads, walk.tail leads⟩, leads⟩
  obtain ⟨member, ⟨_, walk⟩, closed⟩ := exists_closed_walk within start onward
  exact ⟨member, walk, closed⟩

theorem exists_cycle_before (wellFormed : graph.WellFormed) (noSource : graph.sources = [])
    (present : name ∈ graph.vertices) :
    ∃ member, Relation.TransGen (Leads graph.arcs) member member ∧
      Relation.ReflTransGen (Leads graph.arcs) member name := by
  let before (other : String) : Prop :=
    other ∈ graph.vertices ∧ Relation.ReflTransGen (Leads graph.arcs) other name
  have within : ∀ other, before other → other ∈ graph.vertices := fun _ held => held.1
  have start : before name := ⟨present, .refl⟩
  have onward : ∀ other, before other →
      ∃ earlier, before earlier ∧ Function.swap (Leads graph.arcs) other earlier := by
    rintro other ⟨held, walk⟩
    obtain ⟨arc, leads, rfl⟩ := exists_arc_to wellFormed noSource held
    exact ⟨arc.source, ⟨wellFormed.source_mem arc leads, .head leads walk⟩, leads⟩
  obtain ⟨member, ⟨_, walk⟩, closed⟩ := exists_closed_walk within start onward
  exact ⟨member, Relation.transGen_swap.mp closed, walk⟩

/-- Nothing leads to a source, so its removal makes no new sink. -/
theorem sinks_removeAll_sources (wellFormed : graph.WellFormed) (noSink : graph.sinks = []) :
    (graph.removeAll graph.sources).sinks = [] := by
  refine List.eq_nil_iff_forall_not_mem.mpr fun name sink => ?_
  obtain ⟨present, free⟩ := (mem_sinks (wellFormed.removeAll _)).mp sink
  rw [vertices_removeAll, List.mem_filter, decide_eq_true_iff] at present
  obtain ⟨arc, member, rfl⟩ := exists_arc_from wellFormed noSink present.1
  have entered : arc.target ∉ graph.sources := fun source =>
    ((mem_sources wellFormed).mp source).2 arc member rfl
  exact free arc ((mem_arcs_removeAll wellFormed).mpr ⟨member, present.2, entered⟩) rfl

end Batches

section Phases

/-- What is left after the sinks are taken off, in rounds, extends to an order of the whole graph. -/
theorem peelSinks_spec (wellFormed : graph.WellFormed) (back : List String) :
    (graph.peelSinks back).1.WellFormed ∧ (graph.peelSinks back).1.sinks = [] ∧
      ∃ taken, (graph.peelSinks back).2 = taken ++ back ∧
        ∀ order, Arranged (graph.peelSinks back).1 order → Arranged graph (order ++ taken) := by
  fun_induction peelSinks graph back with
  | case1 graph back noSink => exact ⟨wellFormed, noSink, [], rfl, fun order => by simp⟩
  | case2 graph back _ ih =>
      obtain ⟨leftFormed, leftSinks, taken, backEq, extend⟩ := ih (wellFormed.removeAll _)
      refine ⟨leftFormed, leftSinks, taken ++ graph.sinks.reverse, by simp [backEq], ?_⟩
      intro order arranged
      rw [← List.append_assoc]
      exact .sinks_batch wellFormed (graph.vertices_nodup.filter _) (fun _ => id)
        (extend order arranged)

theorem peelSources_spec (wellFormed : graph.WellFormed) (noSink : graph.sinks = [])
    (front : List String) :
    (graph.peelSources front).1.WellFormed ∧ (graph.peelSources front).1.sinks = [] ∧
      (graph.peelSources front).1.sources = [] ∧
      ∃ taken, (graph.peelSources front).2 = front ++ taken ∧
        ∀ order, Arranged (graph.peelSources front).1 order → Arranged graph (taken ++ order) := by
  fun_induction peelSources graph front with
  | case1 graph front noSource =>
      exact ⟨wellFormed, noSink, noSource, [], by simp, fun order => by simp⟩
  | case2 graph front _ ih =>
      obtain ⟨leftFormed, leftSinks, leftSources, taken, frontEq, extend⟩ :=
        ih (wellFormed.removeAll _) (sinks_removeAll_sources wellFormed noSink)
      refine ⟨leftFormed, leftSinks, leftSources, graph.sources ++ taken, by simp [frontEq], ?_⟩
      intro order arranged
      rw [List.append_assoc]
      exact .sources_batch wellFormed (graph.vertices_nodup.filter _) (fun _ => id)
        (extend order arranged)

theorem orderBetween_spec (wellFormed : graph.WellFormed) (front back : List String) :
    ∃ order, graph.orderBetween front back = front ++ order ++ back ∧ Arranged graph order := by
  fun_induction orderBetween graph front back with
  | case1 graph front back peeledBack peeledFront none =>
      obtain ⟨backFormed, noSink, tail, backEq, extendBack⟩ := peelSinks_spec wellFormed back
      obtain ⟨_, _, _, head, frontEq, extendFront⟩ := peelSources_spec backFormed noSink front
      have arranged := extendFront [] (.done (firstMaximum_eq_none_iff.mp none))
      refine ⟨head ++ tail, ?_, by simpa using extendBack _ arranged⟩
      simp [peeledFront, peeledBack, frontEq, backEq]
  | case2 graph front back peeledBack peeledFront name highest ih =>
      obtain ⟨backFormed, noSink, tail, backEq, extendBack⟩ := peelSinks_spec wellFormed back
      obtain ⟨frontFormed, frontSinks, frontSources, head, frontEq, extendFront⟩ :=
        peelSources_spec backFormed noSink front
      obtain ⟨middle, orderEq, arranged⟩ := ih (frontFormed.remove name)
      have all := extendBack _ (extendFront _ (.highest frontSinks frontSources highest arranged))
      refine ⟨head ++ name :: middle ++ tail, ?_, all⟩
      rw [orderEq]
      simp [peeledFront, peeledBack, frontEq, backEq]

theorem ordering_arranged (wellFormed : graph.WellFormed) : Arranged graph graph.ordering := by
  obtain ⟨order, orderEq, arranged⟩ := orderBetween_spec wellFormed [] []
  have same : graph.ordering = order := by simpa [ordering] using orderEq
  rwa [same]

end Phases

theorem perm_cons_vertices_remove (present : name ∈ graph.vertices) :
    (name :: (graph.remove name).vertices).Perm graph.vertices := by
  rw [vertices_remove]
  have erased := graph.vertices_nodup.erase_eq_filter name
  have same : graph.vertices.erase name = graph.vertices.filter (· ≠ name) := by
    rw [erased]
    congr 1
    funext held
    simp [bne, beq_eq_decide]
  rw [← same]
  exact (List.perm_cons_erase present).symm

theorem Arranged.perm (arranged : Arranged graph order) : order.Perm graph.vertices := by
  induction arranged with
  | done empty => rw [empty]
  | sink present _ _ ih =>
      exact (List.perm_append_singleton _ _).trans ((ih.cons _).trans (perm_cons_vertices_remove present))
  | source present _ _ ih =>
      exact (ih.cons _).trans (perm_cons_vertices_remove present)
  | highest _ _ chosen _ ih =>
      exact (ih.cons _).trans (perm_cons_vertices_remove (firstMaximum_mem chosen))

end ClassMetrics.DependencyGraph
