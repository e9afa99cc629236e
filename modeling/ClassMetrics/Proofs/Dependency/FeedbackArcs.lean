import ClassMetrics.Dependency.Ordering
import ClassMetrics.Proofs.Dependency.Ordering

namespace ClassMetrics

/-!
Feedback arcs: which they are, that no cycle is left without them, and how many there can be. The count
follows the run that puts the vertices in order. A vertex put before the rest turns back the arcs that
enter it and a vertex put behind the rest those that leave it; there are none of these for a source and
a sink, and no more than half of its arcs for the vertex with the highest delta.
-/

/-- The target stands before the source. -/
def Arc.PointsBack (order : List String) (arc : Arc) : Prop :=
  [arc.target, arc.source].Sublist order

instance (order : List String) : DecidablePred (Arc.PointsBack order) := fun arc =>
  inferInstanceAs (Decidable ([arc.target, arc.source].Sublist order))

section Order

variable {order : List String} {name first second : String} {arc : Arc}

theorem Arc.pointsBack_cons :
    arc.PointsBack (name :: order) ↔
      arc.PointsBack order ∨ arc.target = name ∧ arc.source ∈ order := by
  simp [PointsBack, List.sublist_cons_iff]

theorem Arc.PointsBack.mem (back : arc.PointsBack order) : arc.source ∈ order ∧ arc.target ∈ order :=
  ⟨back.subset (by simp), back.subset (by simp)⟩

theorem Arc.pointsBack_concat :
    arc.PointsBack (order ++ [name]) ↔
      arc.PointsBack order ∨ arc.target ∈ order ∧ arc.source = name := by
  induction order with
  | nil => simp [PointsBack]
  | cons head rest ih =>
      rw [List.cons_append, pointsBack_cons, pointsBack_cons, ih]
      simp only [List.mem_append, List.mem_cons, List.not_mem_nil, or_false]
      grind

/-- Of two names in an order one stands before the other. -/
theorem sublist_or_sublist (different : first ≠ second) (firstIn : first ∈ order)
    (secondIn : second ∈ order) : [first, second].Sublist order ∨ [second, first].Sublist order := by
  induction order with
  | nil => simp at firstIn
  | cons head rest ih =>
      simp only [List.sublist_cons_iff, List.cons.injEq]
      rcases List.mem_cons.mp firstIn with rfl | firstLater
      · exact .inl (.inr ⟨_, ⟨rfl, rfl⟩, by simpa [different.symm] using secondIn⟩)
      · rcases List.mem_cons.mp secondIn with rfl | secondLater
        · exact .inr (.inr ⟨_, ⟨rfl, rfl⟩, by simpa using firstLater⟩)
        · exact (ih firstLater secondLater).imp .inl .inl

theorem idxOf_lt_of_sublist (distinct : order.Nodup) (before : [first, second].Sublist order) :
    order.idxOf first < order.idxOf second := by
  induction order with
  | nil => simp at before
  | cons head rest ih =>
      obtain ⟨fresh, distinct⟩ := List.nodup_cons.mp distinct
      have elsewhere {held : String} (member : held ∈ rest) : head ≠ held :=
        fun same => fresh (same ▸ member)
      rcases List.sublist_cons_iff.mp before with later | ⟨tail, shape, later⟩
      · have firstIn : first ∈ rest := later.subset (by simp)
        have secondIn : second ∈ rest := later.subset (by simp)
        rw [List.idxOf_cons_ne _ (elsewhere firstIn), List.idxOf_cons_ne _ (elsewhere secondIn)]
        exact Nat.succ_lt_succ (ih distinct later)
      · obtain ⟨rfl, rfl⟩ := List.cons.inj shape
        rw [List.idxOf_cons_self, List.idxOf_cons_ne _ (elsewhere (List.singleton_sublist.mp later))]
        exact Nat.succ_pos _

end Order

namespace DependencyGraph

variable {graph : DependencyGraph} {name : String} {order visited names : List String} {arc : Arc}

section Members

theorem mem_backwardArcs (wellFormed : graph.WellFormed) :
    arc ∈ graph.backwardArcs visited names ↔
      arc ∈ graph.arcs ∧ (arc.source ∈ names ∧ arc.target ∈ visited ∨ arc.PointsBack names) := by
  induction names generalizing visited with
  | nil => simp [backwardArcs, Arc.PointsBack]
  | cons name rest ih =>
      have first : arc ∈ ((graph.successors name).filter visited.contains).map (Arc.mk name) ↔
          arc ∈ graph.arcs ∧ arc.source = name ∧ arc.target ∈ visited := by
        simp only [List.mem_map, List.mem_filter, wellFormed.mem_successors, List.contains_iff_mem]
        constructor
        · rintro ⟨target, ⟨member, seen⟩, rfl⟩
          exact ⟨member, rfl, seen⟩
        · rintro ⟨member, rfl, seen⟩
          exact ⟨arc.target, ⟨member, seen⟩, rfl⟩
      rw [backwardArcs, List.mem_append, first, ih, Arc.pointsBack_cons]
      simp only [List.mem_cons]
      grind

theorem backwardArcs_nodup (wellFormed : graph.WellFormed) (distinct : names.Nodup) :
    (graph.backwardArcs visited names).Nodup := by
  induction names generalizing visited with
  | nil => exact List.nodup_nil
  | cons name rest ih =>
      obtain ⟨fresh, distinct⟩ := List.nodup_cons.mp distinct
      have targets : (graph.successors name).Nodup := wellFormed.neighbours_nodup .source name
      refine List.Nodup.append ?_ (ih distinct) ?_
      · exact (targets.filter _).map fun _ _ same => (Arc.mk.inj same).2
      · -- The arcs that follow start at names of the rest.
        intro arc here later
        obtain ⟨target, _, rfl⟩ := List.mem_map.mp here
        rcases ((mem_backwardArcs wellFormed).mp later).2 with ⟨inRest, _⟩ | back
        · exact fresh inRest
        · exact fresh back.mem.1

theorem feedbackArcs_perm (wellFormed : graph.WellFormed) :
    graph.feedbackArcs.Perm (graph.arcs.filter fun arc => arc.PointsBack graph.ordering) := by
  have order := (ordering_arranged wellFormed).perm
  have distinct : (graph.backwardArcs [] graph.ordering).Nodup :=
    backwardArcs_nodup wellFormed (order.nodup_iff.mpr graph.vertices_nodup)
  refine (List.mergeSort_perm _ _).trans ?_
  refine (List.perm_ext_iff_of_nodup distinct (wellFormed.arcs_nodup.filter _)).mpr fun arc => ?_
  rw [mem_backwardArcs wellFormed, List.mem_filter, decide_eq_true_iff]
  simp

theorem feedbackArcs_nodup (wellFormed : graph.WellFormed) : graph.feedbackArcs.Nodup :=
  (feedbackArcs_perm wellFormed).nodup_iff.mpr (wellFormed.arcs_nodup.filter _)

theorem mem_feedbackArcs (wellFormed : graph.WellFormed) :
    arc ∈ graph.feedbackArcs ↔ arc ∈ graph.arcs ∧ arc.PointsBack graph.ordering := by
  rw [(feedbackArcs_perm wellFormed).mem_iff, List.mem_filter, decide_eq_true_iff]

/-- The arcs that are kept ascend in the order of the vertices. -/
theorem not_cyclic_without_feedbackArcs (wellFormed : graph.WellFormed) :
    ¬ Cyclic (graph.arcs.filter (· ∉ graph.feedbackArcs)) := by
  have order := (ordering_arranged wellFormed).perm
  refine not_cyclic_of_rank graph.ordering.idxOf fun arc kept => ?_
  obtain ⟨member, outside⟩ := List.mem_filter.mp kept
  have forward : ¬ arc.PointsBack graph.ordering := fun back =>
    of_decide_eq_true outside ((mem_feedbackArcs wellFormed).mpr ⟨member, back⟩)
  have sourceIn := order.mem_iff.mpr (wellFormed.source_mem arc member)
  have targetIn := order.mem_iff.mpr (wellFormed.target_mem arc member)
  have before := (sublist_or_sublist (wellFormed.noLoop arc member) sourceIn targetIn).resolve_right
    forward
  exact idxOf_lt_of_sublist (order.nodup_iff.mpr graph.vertices_nodup) before

end Members

theorem Arranged.fresh (arranged : Arranged (graph.remove name) order) : name ∉ order := by
  rw [arranged.perm.mem_iff, mem_vertices_remove]
  exact fun both => both.2 rfl

section Turned

/-- Putting a name before the others turns back the arcs to it. -/
theorem pointsBack_cases (wellFormed : graph.WellFormed) (fresh : name ∉ order)
    (member : arc ∈ graph.arcs) (back : arc.PointsBack (name :: order)) :
    arc ∈ (graph.remove name).arcs ∧ arc.PointsBack order ∨ arc.target = name := by
  rcases Arc.pointsBack_cons.mp back with later | ⟨enters, _⟩
  · have sourceOther : arc.source ≠ name := fun same => fresh (same ▸ later.mem.1)
    have targetOther : arc.target ≠ name := fun same => fresh (same ▸ later.mem.2)
    exact .inl ⟨(mem_arcs_remove wellFormed).mpr ⟨member, sourceOther, targetOther⟩, later⟩
  · exact .inr enters

theorem pointsBack_of_source (wellFormed : graph.WellFormed) (source : graph.inDegree name = 0)
    (fresh : name ∉ order) (member : arc ∈ graph.arcs) (back : arc.PointsBack (name :: order)) :
    arc ∈ (graph.remove name).arcs ∧ arc.PointsBack order :=
  (pointsBack_cases wellFormed fresh member back).resolve_right
    ((inDegree_eq_zero_iff wellFormed).mp source arc member)

theorem pointsBack_of_sink (wellFormed : graph.WellFormed) (sink : graph.outDegree name = 0)
    (fresh : name ∉ order) (member : arc ∈ graph.arcs) (back : arc.PointsBack (order ++ [name])) :
    arc ∈ (graph.remove name).arcs ∧ arc.PointsBack order := by
  have leaves := (outDegree_eq_zero_iff wellFormed).mp sink arc member
  have earlier := (Arc.pointsBack_concat.mp back).resolve_right fun both => leaves both.2
  have enters : arc.target ≠ name := fun same => fresh (same ▸ earlier.mem.2)
  exact ⟨(mem_arcs_remove wellFormed).mpr ⟨member, leaves, enters⟩, earlier⟩

/-- An arc points back because its target was taken by its delta, out of a graph without sinks and sources. -/
theorem Arranged.pointsBack_induction {motive : DependencyGraph → Arc → Prop}
    (turned : ∀ {graph : DependencyGraph} {arc : Arc}, graph.WellFormed → graph.sinks = [] →
      graph.sources = [] → graph.highestDelta? = some arc.target → arc ∈ graph.arcs → motive graph arc)
    (grown : ∀ {graph : DependencyGraph} {name : String} {arc : Arc}, graph.WellFormed →
      motive (graph.remove name) arc → motive graph arc)
    (arranged : Arranged graph order) (wellFormed : graph.WellFormed) :
    ∀ arc ∈ graph.arcs, arc.PointsBack order → motive graph arc := by
  induction arranged with
  | done _ =>
      intro arc _ back
      simp [Arc.PointsBack] at back
  | @sink graph name order _ sink rest ih =>
      intro arc member back
      obtain ⟨kept, earlier⟩ := pointsBack_of_sink wellFormed sink (rest.fresh) member back
      exact grown wellFormed (ih (wellFormed.remove name) arc kept earlier)
  | @source graph name order _ source rest ih =>
      intro arc member back
      obtain ⟨kept, later⟩ := pointsBack_of_source wellFormed source (rest.fresh) member back
      exact grown wellFormed (ih (wellFormed.remove name) arc kept later)
  | @highest graph name order noSink noSource chosen rest ih =>
      intro arc member back
      rcases pointsBack_cases wellFormed (rest.fresh) member back with ⟨kept, later⟩ | rfl
      · exact grown wellFormed (ih (wellFormed.remove name) arc kept later)
      · exact turned wellFormed noSink noSource chosen member

end Turned

section Count

theorem countP_touches {arcs : List Arc} (noLoop : ∀ arc ∈ arcs, arc.source ≠ arc.target) :
    arcs.countP (·.touches name) =
      (arcs.map (·.source)).count name + (arcs.map (·.target)).count name := by
  induction arcs with
  | nil => rfl
  | cons arc rest ih =>
      have different := noLoop arc List.mem_cons_self
      have later := ih fun other member => noLoop other (List.mem_cons_of_mem _ member)
      rw [List.countP_cons, later]
      simp only [List.map_cons, List.count_cons, Arc.touches]
      by_cases starts : arc.source = name
      · have elsewhere : arc.target ≠ name := fun ends => different (starts.trans ends.symm)
        simp [starts, elsewhere]
        omega
      · by_cases ends : arc.target = name <;> simp [starts, ends]
        omega

theorem arcCount_eq_remove (wellFormed : graph.WellFormed) (name : String) :
    graph.arcCount = (graph.remove name).arcCount + (graph.outDegree name + graph.inDegree name) := by
  rw [outDegree_eq_count wellFormed, inDegree_eq_count wellFormed,
    ← countP_touches wellFormed.noLoop, arcCount, arcCount, arcs_remove wellFormed,
    ← List.countP_eq_length_filter, Nat.add_comm,
    List.length_eq_countP_add_countP (·.touches name)]
  simp

/-- Arcs that point back when a vertex is put before the others. -/
theorem countP_pointsBack_cons (wellFormed : graph.WellFormed) (fresh : name ∉ order) :
    graph.arcs.countP (Arc.PointsBack (name :: order)) ≤
      (graph.remove name).arcs.countP (Arc.PointsBack order) + graph.inDegree name := by
  rw [arcs_remove wellFormed, inDegree_eq_count wellFormed, List.count, List.countP_map,
    List.countP_filter, List.countP_eq_countP_filter_add graph.arcs _ fun arc => !arc.touches name,
    List.countP_filter, List.countP_filter]
  refine Nat.add_le_add (List.countP_mono_left fun arc _ kept => ?_)
    (List.countP_mono_left fun arc _ gone => ?_)
  · simp only [Bool.and_eq_true, decide_eq_true_eq, Arc.pointsBack_cons] at kept ⊢
    refine ⟨kept.1.resolve_right fun ⟨enters, _⟩ => ?_, kept.2⟩
    simp [Arc.touches, enters] at kept
  · simp only [Bool.and_eq_true, Bool.not_not, decide_eq_true_eq, Arc.pointsBack_cons] at gone
    obtain ⟨back | ⟨enters, _⟩, touches⟩ := gone
    · -- Both ends are in the order, and the name is not.
      have sourceOther : arc.source ≠ name := fun same => fresh (same ▸ back.mem.1)
      have targetOther : arc.target ≠ name := fun same => fresh (same ▸ back.mem.2)
      simp [Arc.touches, sourceOther, targetOther] at touches
    · simpa using enters

/-- Arcs that point back when a sink is put behind the others. -/
theorem countP_pointsBack_concat (wellFormed : graph.WellFormed) (sink : graph.outDegree name = 0)
    (fresh : name ∉ order) :
    graph.arcs.countP (Arc.PointsBack (order ++ [name])) ≤
      (graph.remove name).arcs.countP (Arc.PointsBack order) := by
  rw [arcs_remove wellFormed, List.countP_filter]
  refine List.countP_mono_left fun arc member back => ?_
  obtain ⟨kept, earlier⟩ := pointsBack_of_sink wellFormed sink fresh member (of_decide_eq_true back)
  obtain ⟨_, leaves, enters⟩ := (mem_arcs_remove wellFormed).mp kept
  simp [earlier, Arc.touches, leaves, enters]

theorem Arranged.twice_pointsBack_le (arranged : Arranged graph order)
    (wellFormed : graph.WellFormed) :
    2 * graph.arcs.countP (Arc.PointsBack order) ≤ graph.arcCount := by
  induction arranged with
  | done _ => simp [Arc.PointsBack]
  | @sink graph name order _ sink rest ih =>
      have remaining := ih (wellFormed.remove _)
      have step := countP_pointsBack_concat wellFormed sink (rest.fresh)
      have total := arcCount_eq_remove wellFormed name
      omega
  | @source graph name order _ source rest ih =>
      have remaining := ih (wellFormed.remove _)
      have step := countP_pointsBack_cons wellFormed (rest.fresh)
      have total := arcCount_eq_remove wellFormed name
      omega
  | @highest graph name order _ _ chosen rest ih =>
      have remaining := ih (wellFormed.remove _)
      have step := countP_pointsBack_cons wellFormed (rest.fresh)
      have total := arcCount_eq_remove wellFormed name
      have balance := inDegree_le_outDegree_of_highest wellFormed chosen
      omega

end Count

/-- Without the arcs that point back in the order of the vertices no cycle is left. -/
theorem feedbackArcs_break_every_cycle (reachable : graph.Reachable) :
    graph.ordering.Perm graph.vertices ∧ graph.ordering.Nodup ∧ graph.feedbackArcs.Nodup ∧
      (∀ arc, arc ∈ graph.feedbackArcs ↔
        arc ∈ graph.arcs ∧ [arc.target, arc.source].Sublist graph.ordering) ∧
      (∀ arc ∈ graph.feedbackArcs, arc ∈ graph.arcs) ∧
      ¬ Cyclic (graph.arcs.filter (· ∉ graph.feedbackArcs)) := by
  have wellFormed := reachable.wellFormed
  have perm := (ordering_arranged wellFormed).perm
  refine ⟨perm, perm.nodup_iff.mpr graph.vertices_nodup, ?_,
    fun arc => mem_feedbackArcs wellFormed, fun arc member => ?_,
    not_cyclic_without_feedbackArcs wellFormed⟩
  · rw [(feedbackArcs_perm wellFormed).nodup_iff]
    exact wellFormed.arcs_nodup.filter _
  · exact ((mem_feedbackArcs wellFormed).mp member).1

theorem feedbackArcs_break_closedAgain :
    closedAgain.Reachable ∧ closedAgain.arcs = [⟨"a", "c"⟩, ⟨"c", "a"⟩] ∧
      closedAgain.ordering.Perm closedAgain.vertices ∧ closedAgain.ordering.Nodup ∧
      closedAgain.feedbackArcs.Nodup ∧
      (∀ arc, arc ∈ closedAgain.feedbackArcs ↔
        arc ∈ closedAgain.arcs ∧ [arc.target, arc.source].Sublist closedAgain.ordering) ∧
      (∀ arc ∈ closedAgain.feedbackArcs, arc ∈ closedAgain.arcs) ∧
      ¬ Cyclic (closedAgain.arcs.filter (· ∉ closedAgain.feedbackArcs)) :=
  ⟨closedAgain_reachable, by decide, feedbackArcs_break_every_cycle closedAgain_reachable⟩

/-- At most half of the arcs are proposed for cutting. -/
theorem twice_feedbackArcs_le_arcCount (reachable : graph.Reachable) :
    2 * graph.feedbackArcs.length ≤ graph.arcCount := by
  have wellFormed := reachable.wellFormed
  rw [(feedbackArcs_perm wellFormed).length_eq, ← List.countP_eq_length_filter]
  exact (ordering_arranged wellFormed).twice_pointsBack_le wellFormed

theorem twice_feedbackArcs_closedAgain :
    closedAgain.Reachable ∧ closedAgain.arcCount = 2 ∧ 2 * closedAgain.feedbackArcs.length ≤ 2 :=
  ⟨closedAgain_reachable, by decide, twice_feedbackArcs_le_arcCount closedAgain_reachable⟩

end DependencyGraph

end ClassMetrics
