import ClassMetrics.Dependency.Cycle
import ClassMetrics.Proofs.Dependency.Ordering
import Mathlib.Data.List.Chain

namespace ClassMetrics.DependencyGraph

/-!
The depth-first search answers whether there is a cycle. A vertex is unseen, on the path or finished.
Finished vertices lead to finished vertices only and lie on no cycle, so a search that ends without an
arc back to the path has seen that no vertex lies on a cycle.
-/

variable {graph : DependencyGraph} {unseen : List String} {path outer : List Frame}
  {vertex target : String} {targets : List String}

theorem mem_successors_iff (wellFormed : graph.WellFormed) :
    target ∈ graph.successors vertex ↔ Leads graph.arcs vertex target :=
  wellFormed.mem_successors

/-- Seen, and no longer on the path. -/
structure Finished (graph : DependencyGraph) (unseen : List String) (path : List Frame)
    (name : String) : Prop where
  present : name ∈ graph.vertices
  seen : name ∉ unseen
  offPath : name ∉ path.map (·.1)

/-- Where the arcs of the vertices on the path lead: to a vertex still to be looked at, to a finished one,
or to the vertex next on the path; beyond the innermost vertex that is `inner`. -/
def Explored (graph : DependencyGraph) (finished : String → Prop) : Option String → List Frame → Prop
  | _, [] => True
  | inner, (vertex, pending) :: outer =>
      (∀ target, Leads graph.arcs vertex target →
        target ∈ pending ∨ finished target ∨ inner = some target) ∧
      Explored graph finished (some vertex) outer

/-- What holds between two steps of the search; `inner` is a vertex that is being looked at and is not on
the path yet. -/
structure Searching (graph : DependencyGraph) (unseen : List String) (inner : Option String)
    (path : List Frame) : Prop where
  distinct : (path.map (·.1) ++ unseen).Nodup
  present : ∀ name ∈ path.map (·.1) ++ unseen, name ∈ graph.vertices
  linked : path.IsChain fun inner outer => Leads graph.arcs outer.1 inner.1
  pending : ∀ frame ∈ path, ∀ target ∈ frame.2, Leads graph.arcs frame.1 target
  entered : ∀ target ∈ inner, ∀ frame ∈ path.head?, Leads graph.arcs frame.1 target
  explored : Explored graph (Finished graph unseen path) inner path
  closed : ∀ name, Finished graph unseen path name →
    ∀ target, Leads graph.arcs name target → Finished graph unseen path target
  settled : ∀ name, Finished graph unseen path name → ¬ Relation.TransGen (Leads graph.arcs) name name

theorem Explored.weaken {finished more : String → Prop} {inner other : Option String}
    (grown : ∀ name, finished name → more name)
    (replaced : ∀ name, inner = some name → more name ∨ other = some name)
    (explored : Explored graph finished inner path) : Explored graph more other path := by
  induction path generalizing inner other with
  | nil => trivial
  | cons frame outer ih =>
      obtain ⟨here, below⟩ := explored
      refine ⟨fun target leads => ?_, ih (fun _ => .inr) below⟩
      rcases here target leads with waiting | done | next
      · exact .inl waiting
      · exact .inr (.inl (grown target done))
      · exact .inr (replaced target next)

theorem Searching.start (graph : DependencyGraph) : Searching graph graph.vertices none [] where
  distinct := by simpa using graph.vertices_nodup
  present := by simp
  linked := .nil
  pending := by simp
  entered := by simp
  explored := trivial
  closed := fun _ finished => absurd finished.present finished.seen
  settled := fun _ finished => absurd finished.present finished.seen

namespace Searching

theorem root (searching : Searching graph unseen none []) : Searching graph unseen (some target) [] :=
  { searching with entered := by simp, explored := trivial }

/-- The search turns to the next arc of the innermost vertex. -/
theorem advance (searching : Searching graph unseen none ((vertex, target :: targets) :: outer)) :
    Searching graph unseen (some target) ((vertex, targets) :: outer) := by
  have sameFinished : Finished graph unseen ((vertex, target :: targets) :: outer) =
      Finished graph unseen ((vertex, targets) :: outer) :=
    funext fun name => propext ⟨fun done => ⟨done.present, done.seen, done.offPath⟩,
      fun done => ⟨done.present, done.seen, done.offPath⟩⟩
  obtain ⟨distinct, present, linked, pending, _, explored, closed, settled⟩ := searching
  rw [sameFinished] at explored closed settled
  have arcsOut := pending _ List.mem_cons_self
  refine ⟨distinct, present, List.isChain_cons.mpr (List.isChain_cons.mp linked), ?_, ?_,
    ⟨fun next leads => ?_, explored.2⟩, closed, settled⟩
  · intro frame member next waiting
    rcases List.mem_cons.mp member with rfl | older
    · exact arcsOut next (List.mem_cons_of_mem _ waiting)
    · exact pending frame (List.mem_cons_of_mem _ older) next waiting
  · rintro _ ⟨rfl⟩ _ ⟨rfl⟩
    exact arcsOut target List.mem_cons_self
  · rcases explored.1 next leads with waiting | done | inner
    · rcases List.mem_cons.mp waiting with rfl | later
      · exact .inr (.inr rfl)
      · exact .inl later
    · exact .inr (.inl done)
    · cases inner

/-- An unseen vertex is put on the path. -/
theorem enter (searching : Searching graph unseen (some target) path) (wellFormed : graph.WellFormed)
    (found : target ∈ unseen) :
    Searching graph (unseen.erase target) none ((target, graph.successors target) :: path) := by
  have moved : (((target, graph.successors target) :: path).map (·.1) ++ unseen.erase target).Perm
      (path.map (·.1) ++ unseen) :=
    List.perm_middle.symm.trans ((List.perm_cons_erase found).symm.append_left _)
  have finished_iff (name : String) :
      Finished graph (unseen.erase target) ((target, graph.successors target) :: path) name ↔
        Finished graph unseen path name := by
    constructor
    · rintro ⟨present, seen, offPath⟩
      simp only [List.map_cons, List.mem_cons, not_or] at offPath
      exact ⟨present, fun member => seen ((List.mem_erase_of_ne offPath.1).mpr member), offPath.2⟩
    · rintro ⟨present, seen, offPath⟩
      refine ⟨present, fun member => seen (List.mem_of_mem_erase member), ?_⟩
      simp only [List.map_cons, List.mem_cons, not_or]
      exact ⟨fun same => seen (same ▸ found), offPath⟩
  have finishedEq := funext fun name => propext (finished_iff name)
  refine ⟨moved.nodup_iff.mpr searching.distinct, fun name member =>
    searching.present name (moved.mem_iff.mp member),
    searching.linked.cons (searching.entered target rfl), ?_, by simp, ?_, ?_, ?_⟩
  · intro frame member next waiting
    rcases List.mem_cons.mp member with rfl | older
    · exact (mem_successors_iff wellFormed).mp waiting
    · exact searching.pending frame older next waiting
  · rw [finishedEq]
    exact ⟨fun next leads => .inl ((mem_successors_iff wellFormed).mpr leads), searching.explored⟩
  · rw [finishedEq]
    exact searching.closed
  · rw [finishedEq]
    exact searching.settled

/-- A vertex whose arcs have all been looked at leaves the path. -/
theorem leave (searching : Searching graph unseen none ((vertex, []) :: outer)) :
    Searching graph unseen none outer := by
  have distinct := searching.distinct
  simp only [List.map_cons, List.cons_append, List.nodup_cons, List.mem_append, not_or] at distinct
  obtain ⟨⟨offPath, seen⟩, distinct⟩ := distinct
  have leaving : Finished graph unseen outer vertex :=
    ⟨searching.present vertex (by simp), seen, offPath⟩
  have grown (name : String) (finished : Finished graph unseen ((vertex, []) :: outer) name) :
      Finished graph unseen outer name :=
    ⟨finished.present, finished.seen, fun member => finished.offPath (List.mem_cons_of_mem _ member)⟩
  have either (name : String) (finished : Finished graph unseen outer name) :
      name = vertex ∨ Finished graph unseen ((vertex, []) :: outer) name := by
    by_cases same : name = vertex
    · exact .inl same
    · refine .inr ⟨finished.present, finished.seen, fun member => ?_⟩
      exact (List.mem_cons.mp member).elim same finished.offPath
  have arcsOut (target : String) (leads : Leads graph.arcs vertex target) :
      Finished graph unseen ((vertex, []) :: outer) target := by
    rcases searching.explored.1 target leads with waiting | done | next
    · simp at waiting
    · exact done
    · cases next
  refine ⟨distinct, fun name member => searching.present name (List.mem_cons_of_mem _ member),
    searching.linked.tail, fun frame member => searching.pending frame (List.mem_cons_of_mem _ member),
    by simp, ?_, ?_, ?_⟩
  · refine searching.explored.2.weaken grown fun name same => .inl ?_
    cases same
    exact leaving
  · intro name finished target leads
    rcases either name finished with rfl | older
    · exact grown target (arcsOut target leads)
    · exact grown target (searching.closed name older target leads)
  · intro name finished walk
    rcases either name finished with rfl | older
    · -- The walk goes on among finished vertices, so it cannot come back to the path.
      have stays {last : String} (walk : Relation.TransGen (Leads graph.arcs) name last) :
          Finished graph unseen ((name, []) :: outer) last := by
        induction walk with
        | single leads => exact arcsOut _ leads
        | tail _ leads ih => exact searching.closed _ ih _ leads
      exact (stays walk).offPath (by simp)
    · exact searching.settled name older walk

/-- An arc to a finished vertex is done with. -/
theorem skip (searching : Searching graph unseen (some target) path)
    (finished : Finished graph unseen path target) : Searching graph unseen none path := by
  refine { searching with entered := by simp, explored := ?_ }
  refine searching.explored.weaken (fun _ => id) fun name same => .inl ?_
  cases same
  exact finished

/-- Along the path every vertex leads to the innermost one. -/
theorem walk_to_innermost (linked : ((vertex, targets) :: outer).IsChain fun inner outer =>
      Leads graph.arcs outer.1 inner.1) {name : String} (member : name ∈ outer.map (·.1)) :
    Relation.TransGen (Leads graph.arcs) name vertex := by
  induction outer generalizing vertex targets with
  | nil => simp at member
  | cons frame rest ih =>
      obtain ⟨leads, linked⟩ := List.isChain_cons_cons.mp linked
      rcases List.mem_cons.mp member with rfl | deeper
      · exact .single leads
      · exact (ih linked deeper).tail leads

/-- An arc from the innermost vertex back to the path closes a cycle. -/
theorem cyclic (searching : Searching graph unseen (some target) ((vertex, targets) :: outer))
    (back : target = vertex ∨ target ∈ outer.map (·.1)) : Cyclic graph.arcs := by
  have leads : Leads graph.arcs vertex target := searching.entered target rfl _ rfl
  rcases back with rfl | onPath
  · exact ⟨target, .single leads⟩
  · exact ⟨target, (walk_to_innermost searching.linked onPath).tail leads⟩

end Searching

theorem searchCycle_iff (searching : Searching graph unseen none path)
    (wellFormed : graph.WellFormed) :
    graph.searchCycle unseen path = true ↔ Cyclic graph.arcs := by
  fun_induction searchCycle graph unseen path with
  | case1 =>
      simp only [Bool.false_eq_true, false_iff]
      rintro ⟨name, walk⟩
      obtain ⟨next, leads, _⟩ := Relation.TransGen.head'_iff.mp walk
      exact searching.settled name ⟨wellFormed.source_mem _ leads, by simp, by simp⟩ walk
  | case2 root rest ih =>
      have entered := searching.root.enter wellFormed (List.mem_cons_self : root ∈ root :: rest)
      rw [List.erase_cons_head] at entered
      exact ih entered
  | case3 unseen vertex outer ih => exact ih searching.leave
  | case4 unseen vertex target targets outer found ih =>
      exact ih (searching.advance.enter wellFormed found)
  | case5 unseen vertex target targets outer seen back =>
      exact iff_of_true rfl (searching.advance.cyclic back)
  | case6 unseen vertex target targets outer seen offPath ih =>
      have leads := searching.pending _ List.mem_cons_self target List.mem_cons_self
      exact ih (searching.advance.skip
        ⟨wellFormed.target_mem _ leads, seen, by simpa using offPath⟩)

theorem hasCycle_iff (wellFormed : graph.WellFormed) :
    graph.hasCycle = true ↔ Cyclic graph.arcs :=
  searchCycle_iff (.start graph) wellFormed

end ClassMetrics.DependencyGraph
