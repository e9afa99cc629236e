import ClassMetrics.Proofs.Dependency.Ordering

namespace ClassMetrics.DependencyGraph

/-!
The order of the vertices as nested loops, one move at a time. A round of the outer loop takes off sinks until
none is left, then sources, then one vertex by its delta. Sinks and sources are listed before any of them is
removed. Every move lowers `LoopState.allowance`, and none changes `LoopState.outcome`, the order that comes of
the state.
-/

inductive Batch where
  | sinks
  | sources
deriving Repr, DecidableEq

namespace Batch

def found (graph : DependencyGraph) : Batch → List String
  | .sinks => graph.sinks
  | .sources => graph.sources

/-- What removed names add to the end of the front part. -/
def toFront (removed : List String) : Batch → List String
  | .sinks => []
  | .sources => removed

/-- What removed names add before the back part. -/
def toBack (removed : List String) : Batch → List String
  | .sinks => removed.reverse
  | .sources => []

end Batch

inductive LoopPoint where
  | round
  | finding (batch : Batch)
  /-- Some of the batch are still to be removed. -/
  | removing (batch : Batch) (waiting : List String)
  | delta
deriving Repr, DecidableEq

namespace LoopPoint

def waiting : LoopPoint → List String
  | .removing _ waiting => waiting
  | _ => []

/-- Where the loops go on when a batch finds nothing. -/
def after : Batch → LoopPoint
  | .sinks => .finding .sources
  | .sources => .delta

end LoopPoint

structure LoopState where
  point : LoopPoint
  work : DependencyGraph
  front : List String
  back : List String
deriving Repr, DecidableEq

namespace LoopState

def start (graph : DependencyGraph) : LoopState := ⟨.round, graph, [], []⟩

/-- The loops end at the head of a round that has no vertex left. -/
def move? : LoopState → Option LoopState
  | ⟨.round, work, front, back⟩ =>
      if work.isEmpty then none else some ⟨.finding .sinks, work, front, back⟩
  | ⟨.finding batch, work, front, back⟩ =>
      if batch.found work = [] then some ⟨.after batch, work, front, back⟩
      else some ⟨.removing batch (batch.found work), work, front, back⟩
  | ⟨.removing batch [], work, front, back⟩ => some ⟨.finding batch, work, front, back⟩
  | ⟨.removing batch (name :: waiting), work, front, back⟩ =>
      some ⟨.removing batch waiting, work.remove name, front ++ batch.toFront [name],
        batch.toBack [name] ++ back⟩
  | ⟨.delta, work, front, back⟩ =>
      match work.highestDelta? with
      | none => some ⟨.round, work, front, back⟩
      | some name => some ⟨.round, work.remove name, front ++ [name], back⟩

inductive Runs : Nat → LoopState → LoopState → Prop where
  | ended {state : LoopState} : state.move? = none → Runs 0 state state
  | moved {count : Nat} {state next final : LoopState} :
      state.move? = some next → Runs count next final → Runs (count + 1) state final

structure Valid (state : LoopState) : Prop where
  formed : state.work.WellFormed
  distinct : state.point.waiting.Nodup
  present : ∀ name ∈ state.point.waiting, name ∈ state.work.vertices

/-- A bound on the moves to come. -/
def allowance : LoopState → Nat
  | ⟨.round, work, _, _⟩ => if work.isEmpty then 0 else 4 * work.vertexCount + 4
  | ⟨.finding .sinks, work, _, _⟩ => 4 * work.vertexCount + 3
  | ⟨.finding .sources, work, _, _⟩ => 4 * work.vertexCount + 2
  | ⟨.removing _ [], work, _, _⟩ => 4 * work.vertexCount + 4
  | ⟨.removing _ (_ :: _), work, _, _⟩ => 4 * work.vertexCount + 1
  | ⟨.delta, work, _, _⟩ => 4 * work.vertexCount + 1

end LoopState

section Outcome

/-- The order that comes of a graph out of which a vertex is to be taken by its delta. -/
def orderByDelta (graph : DependencyGraph) (front back : List String) : List String :=
  match graph.highestDelta? with
  | none => front ++ back
  | some name => (graph.remove name).orderBetween (front ++ [name]) back

/-- The order that comes of a graph out of which a batch is to be taken. -/
def Batch.order (graph : DependencyGraph) (front back : List String) : Batch → List String
  | .sinks => graph.orderBetween front back
  | .sources => (graph.peelSources front).1.orderByDelta (graph.peelSources front).2 back

namespace LoopState

def outcome : LoopState → List String
  | ⟨.round, work, front, back⟩ => work.orderBetween front back
  | ⟨.finding batch, work, front, back⟩ => batch.order work front back
  | ⟨.removing batch waiting, work, front, back⟩ =>
      batch.order (work.removeAll waiting) (front ++ batch.toFront waiting) (batch.toBack waiting ++ back)
  | ⟨.delta, work, front, back⟩ => work.orderByDelta front back

end LoopState

variable {graph : DependencyGraph} {front back : List String} {batch : Batch}

theorem orderBetween_eq :
    graph.orderBetween front back =
      Batch.sources.order (graph.peelSinks back).1 front (graph.peelSinks back).2 := by
  rw [orderBetween, Batch.order, orderByDelta]
  split <;> rename_i found <;> simp [found]

theorem Batch.order_of_none (none : batch.found graph = []) :
    batch.order graph front back = LoopState.outcome ⟨.after batch, graph, front, back⟩ := by
  cases batch with
  | sinks =>
      change graph.sinks = [] at none
      have unpeeled : graph.peelSinks back = (graph, back) := by rw [peelSinks, dif_pos none]
      rw [Batch.order, orderBetween_eq, unpeeled]
      rfl
  | sources =>
      change graph.sources = [] at none
      have unpeeled : graph.peelSources front = (graph, front) := by rw [peelSources, dif_pos none]
      rw [Batch.order, unpeeled]
      rfl

theorem Batch.order_of_found (nonempty : batch.found graph ≠ []) :
    batch.order graph front back =
      batch.order (graph.removeAll (batch.found graph)) (front ++ batch.toFront (batch.found graph))
        (batch.toBack (batch.found graph) ++ back) := by
  cases batch with
  | sinks =>
      change graph.sinks ≠ [] at nonempty
      rw [Batch.order, orderBetween_eq, peelSinks, dif_neg nonempty, ← orderBetween_eq]
      simp [Batch.order, Batch.found, Batch.toFront, Batch.toBack]
  | sources =>
      change graph.sources ≠ [] at nonempty
      rw [Batch.order, peelSources, dif_neg nonempty]
      rfl

theorem orderBetween_of_empty (empty : graph.vertices = []) :
    graph.orderBetween front back = front ++ back := by
  have noSink : Batch.sinks.found graph = [] := by simp [Batch.found, sinks, empty]
  have noSource : Batch.sources.found graph = [] := by simp [Batch.found, sources, empty]
  have none : graph.highestDelta? = none := firstMaximum_eq_none_iff.mpr empty
  calc
    graph.orderBetween front back = Batch.sources.order graph front back := Batch.order_of_none noSink
    _ = graph.orderByDelta front back := Batch.order_of_none noSource
    _ = front ++ back := by rw [orderByDelta, none]

end Outcome

namespace LoopState

variable {state next : LoopState} {work : DependencyGraph} {front back waiting : List String}
  {name : String} {batch : Batch} {point : LoopPoint}

theorem valid_start {graph : DependencyGraph} (wellFormed : graph.WellFormed) : (start graph).Valid :=
  ⟨wellFormed, List.nodup_nil, by simp [start, LoopPoint.waiting]⟩

theorem Valid.idle (formed : work.WellFormed) (none : point.waiting = []) :
    Valid ⟨point, work, front, back⟩ :=
  ⟨formed, by simp [none], by simp [none]⟩

theorem allowance_round_le : allowance ⟨.round, work, front, back⟩ ≤ 4 * work.vertexCount + 4 := by
  simp only [allowance]
  split <;> omega

theorem allowance_removing_le :
    allowance ⟨.removing batch waiting, work, front, back⟩ ≤ 4 * work.vertexCount + 4 := by
  cases waiting <;> simp [allowance]

structure Advances (state next : LoopState) : Prop where
  valid : next.Valid
  lower : next.allowance < state.allowance
  sameOutcome : next.outcome = state.outcome

theorem advances_finding (formed : work.WellFormed)
    (moved : move? ⟨.finding batch, work, front, back⟩ = some next) :
    Advances ⟨.finding batch, work, front, back⟩ next := by
  simp only [move?] at moved
  split at moved <;> rename_i found <;> cases moved
  · refine ⟨.idle formed (by cases batch <;> rfl), ?_, (Batch.order_of_none found).symm⟩
    cases batch <;> simp [allowance, LoopPoint.after]
  · have listed : (batch.found work).Nodup ∧ ∀ name ∈ batch.found work, name ∈ work.vertices := by
      cases batch <;>
        exact ⟨(vertices_nodup _).filter _, fun _ member => (List.mem_filter.mp member).1⟩
    refine ⟨⟨formed, listed.1, listed.2⟩, ?_, (Batch.order_of_found found).symm⟩
    obtain ⟨first, others, shape⟩ := List.exists_cons_of_ne_nil found
    rw [shape]
    cases batch <;> simp [allowance]

theorem advances_removing (valid : Valid ⟨.removing batch waiting, work, front, back⟩)
    (moved : move? ⟨.removing batch waiting, work, front, back⟩ = some next) :
    Advances ⟨.removing batch waiting, work, front, back⟩ next := by
  obtain ⟨formed, distinct, present⟩ := valid
  cases waiting with
  | nil =>
      cases moved
      refine ⟨.idle formed rfl, ?_, ?_⟩
      · cases batch <;> simp [allowance]
      · cases batch <;> simp [outcome, removeAll, Batch.toFront, Batch.toBack]
  | cons name waiting =>
      cases moved
      obtain ⟨fresh, distinct⟩ := List.nodup_cons.mp distinct
      have others : ∀ other ∈ waiting, other ∈ (work.remove name).vertices := fun other member =>
        mem_vertices_remove.mpr
          ⟨present other (List.mem_cons_of_mem _ member), fun same => fresh (same ▸ member)⟩
      have fewer : (work.remove name).vertexCount < work.vertexCount :=
        vertexCount_remove_lt (present name List.mem_cons_self)
      refine ⟨⟨formed.remove name, distinct, others⟩, ?_, ?_⟩
      · apply Nat.lt_of_le_of_lt allowance_removing_le
        simp only [allowance]
        omega
      · cases batch <;> simp [outcome, removeAll, Batch.toFront, Batch.toBack]

theorem advances_delta (formed : work.WellFormed) (moved : move? ⟨.delta, work, front, back⟩ = some next) :
    Advances ⟨.delta, work, front, back⟩ next := by
  simp only [move?] at moved
  split at moved <;> rename_i found <;> cases moved
  · have empty := firstMaximum_eq_none_iff.mp found
    refine ⟨.idle formed rfl, by simp [allowance, isEmpty, empty], ?_⟩
    simp only [outcome, orderByDelta, found, orderBetween_of_empty empty]
  · rename_i name
    have fewer := vertexCount_remove_lt (firstMaximum_mem found)
    refine ⟨.idle (formed.remove name) rfl, ?_, by simp only [outcome, orderByDelta, found]⟩
    apply Nat.lt_of_le_of_lt allowance_round_le
    simp only [allowance]
    omega

theorem advances_of_move? (valid : state.Valid) (moved : state.move? = some next) : Advances state next := by
  obtain ⟨point, work, front, back⟩ := state
  cases point with
  | round =>
      simp only [move?, Option.ite_none_left_eq_some, Option.some.injEq] at moved
      obtain ⟨nonempty, rfl⟩ := moved
      exact ⟨.idle valid.formed rfl, by simp [allowance, nonempty], rfl⟩
  | finding batch => exact advances_finding valid.formed moved
  | removing batch waiting => exact advances_removing valid moved
  | delta => exact advances_delta valid.formed moved

theorem empty_of_move?_eq_none (ended : state.move? = none) :
    state.work.vertices = [] ∧ state.outcome = state.front ++ state.back := by
  obtain ⟨point, work, front, back⟩ := state
  cases point with
  | round =>
      have empty : work.vertices = [] := by
        simpa [move?, isEmpty] using ended
      exact ⟨empty, orderBetween_of_empty empty⟩
  | removing batch waiting => cases waiting <;> simp [move?] at ended
  | finding | delta =>
      simp only [move?] at ended
      split at ended <;> simp at ended

/-- The loops end, and what they leave is the order that the state stands for. -/
theorem exists_runs (valid : state.Valid) :
    ∃ count ≤ state.allowance, ∃ final, Runs count state final ∧ final.work.vertices = [] ∧
      final.front ++ final.back = state.outcome := by
  -- every move lowers the allowance, so the induction is on its value
  generalize bound : state.allowance = limit
  induction limit using Nat.strongRecOn generalizing state with
  | ind limit ih =>
      cases moved : state.move? with
      | none =>
          obtain ⟨empty, finished⟩ := empty_of_move?_eq_none moved
          exact ⟨0, Nat.zero_le _, state, .ended moved, empty, finished.symm⟩
      | some next =>
          obtain ⟨nextValid, lower, same⟩ := advances_of_move? valid moved
          obtain ⟨count, few, final, runs, empty, finished⟩ := ih next.allowance (bound ▸ lower) nextValid rfl
          exact ⟨count + 1, by omega, final, .moved moved runs, empty, finished.trans same⟩

end LoopState

/-- The loops end after at most four moves for each vertex and four more, and the order that they leave has
every vertex once and nothing else. -/
theorem ordering_ends_with_each_vertex_once {graph : DependencyGraph} (reachable : graph.Reachable) :
    (∃ count ≤ 4 * graph.vertexCount + 4, ∃ final, LoopState.Runs count (.start graph) final ∧
      final.work.vertices = [] ∧ final.front ++ final.back = graph.ordering) ∧
    ∀ name, graph.ordering.count name = if name ∈ graph.vertices then 1 else 0 := by
  have wellFormed := reachable.wellFormed
  constructor
  · obtain ⟨count, few, final, runs, empty, finished⟩ :=
      LoopState.exists_runs (LoopState.valid_start wellFormed)
    exact ⟨count, few.trans LoopState.allowance_round_le, final, runs, empty, finished⟩
  · intro name
    have order := (ordering_arranged wellFormed).perm
    rw [order.count_eq, graph.vertices_nodup.count]

theorem closedAgain_ends_with_each_vertex_once :
    (∃ count ≤ 12, ∃ final, LoopState.Runs count (.start closedAgain) final ∧
      final.work.vertices = [] ∧ final.front ++ final.back = closedAgain.ordering) ∧
    closedAgain.ordering.count "a" = 1 ∧ closedAgain.ordering.count "b" = 0 := by
  obtain ⟨runs, counts⟩ := ordering_ends_with_each_vertex_once closedAgain_reachable
  have two : closedAgain.vertexCount = 2 := by decide +kernel
  rw [two] at runs
  exact ⟨runs, (counts "a").trans (by decide +kernel), (counts "b").trans (by decide +kernel)⟩

end ClassMetrics.DependencyGraph
