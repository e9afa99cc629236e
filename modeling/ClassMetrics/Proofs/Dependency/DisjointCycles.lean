import ClassMetrics.Proofs.Dependency.CyclicCore

namespace ClassMetrics

/-!
Graphs without branches one way, in which no two circuits meet. Whatever is left without sinks and sources
branches neither way, so a vertex taken by its delta turns back the one arc that enters it. That arc closes a
circuit, and no other arc of this circuit is turned back later: it would close a circuit that avoids the vertex.
-/

/-- No two arcs have one source, or no two arcs have one target. -/
def Unbranched (arcs : List Arc) : Prop :=
  (arcs.map (·.source)).Nodup ∨ (arcs.map (·.target)).Nodup

/-- One arc out of each circuit and no other arc, which are as few as can break every cycle. -/
structure CutsEachCircuitOnce (arcs cut : List Arc) : Prop where
  once : ∀ cycle, Circuit arcs cycle → ∃! arc, arc ∈ cycle ∧ arc ∈ cut
  closing : ∀ arc ∈ cut, ∃ cycle, Circuit arcs cycle ∧ arc ∈ cycle
  breaks : ¬ Cyclic (arcs.filter (· ∉ cut))
  fewest : ∀ other : List Arc, ¬ Cyclic (arcs.filter (· ∉ other)) → cut.length ≤ other.length

variable {arcs fewer more : List Arc} {arc first second : Arc} {name finish : String}

theorem Unbranched.mono (unbranched : Unbranched more) (fewer_sublist : fewer.Sublist more) :
    Unbranched fewer :=
  unbranched.imp (·.sublist (fewer_sublist.map _)) (·.sublist (fewer_sublist.map _))

section Walks

/-- What an arc leads to without branches, while some walk leads back to the arc, lies on that walk. -/
theorem walk_stays (single : (more.map (·.source)).Nodup) (included : ∀ arc ∈ fewer, arc ∈ more)
    (member : arc ∈ fewer) (back : Relation.ReflTransGen (Leads fewer) arc.target arc.source)
    (walk : Relation.ReflTransGen (Leads more) arc.target finish) :
    Relation.ReflTransGen (Leads fewer) arc.target finish ∧
      Relation.ReflTransGen (Leads fewer) finish arc.source := by
  have only {other : Arc} {next : String} (listed : other ∈ more) (leads : Leads more other.source next) :
      next = other.target :=
    congrArg Arc.target (List.inj_on_of_nodup_map single leads listed rfl)
  induction walk with
  | refl => exact ⟨.refl, back⟩
  | @tail middle last _ leads ih =>
      obtain ⟨there, onward⟩ := ih
      rcases onward.cases_head with rfl | ⟨next, step, rest⟩
      · cases only (included arc member) leads
        exact ⟨.refl, back⟩
      · cases only (included _ step) leads
        exact ⟨there.tail step, rest⟩

/-- Who leads to a cycle without meeting another arc lies on it. -/
theorem closed_of_leads_to_closed (single : (arcs.map (·.target)).Nodup)
    (walk : Relation.ReflTransGen (Leads arcs) name finish)
    (closed : Relation.TransGen (Leads arcs) finish finish) :
    Relation.TransGen (Leads arcs) name name := by
  induction walk using Relation.ReflTransGen.head_induction_on with
  | refl => exact closed
  | @head name next leads _ ih =>
      obtain ⟨previous, there, into⟩ := Relation.TransGen.tail'_iff.mp ih
      cases List.inj_on_of_nodup_map single leads into rfl
      exact .head' leads there

end Walks

namespace DependencyGraph

variable {graph : DependencyGraph} {order : List String}

section Ends

theorem ends_nodup {chosen : Arc → String} (present : ∀ arc ∈ graph.arcs, chosen arc ∈ graph.vertices)
    (few : ∀ name ∈ graph.vertices, (graph.arcs.map chosen).count name ≤ 1) :
    (graph.arcs.map chosen).Nodup := by
  apply List.nodup_iff_count_le_one.mpr
  intro name
  by_cases listed : name ∈ graph.arcs.map chosen
  · obtain ⟨arc, member, rfl⟩ := List.mem_map.mp listed
    exact few _ (present arc member)
  · rw [List.count_eq_zero_of_not_mem listed]
    omega

theorem unbranched_of_degrees (wellFormed : graph.WellFormed)
    (single : (∀ name ∈ graph.vertices, graph.outDegree name ≤ 1) ∨
      (∀ name ∈ graph.vertices, graph.inDegree name ≤ 1)) : Unbranched graph.arcs := by
  simp only [outDegree_eq_count wellFormed, inDegree_eq_count wellFormed] at single
  exact single.imp (ends_nodup wellFormed.source_mem) (ends_nodup wellFormed.target_mem)

/-- As many arcs as names at most, and every name met: so no name is met twice. -/
theorem otherEnds_nodup_of_met {chosen other : Arc → String}
    (single : (graph.arcs.map chosen).Nodup) (present : ∀ arc ∈ graph.arcs, chosen arc ∈ graph.vertices)
    (met : ∀ name ∈ graph.vertices, ∃ arc ∈ graph.arcs, other arc = name) :
    (graph.arcs.map other).Nodup := by
  have few : (graph.arcs.map chosen).length ≤ graph.vertices.length := by
    apply (single.subperm _).length_le
    intro name listed
    obtain ⟨arc, member, rfl⟩ := List.mem_map.mp listed
    exact present arc member
  have all : graph.vertices.Subperm (graph.arcs.map other) :=
    graph.vertices_nodup.subperm fun name present => List.mem_map.mpr (met name present)
  have same := all.perm_of_length_le (by simpa using few)
  exact same.nodup_iff.mp graph.vertices_nodup

theorem nodup_of_no_ends (wellFormed : graph.WellFormed) (noSink : graph.sinks = [])
    (noSource : graph.sources = []) (unbranched : Unbranched graph.arcs) :
    (graph.arcs.map (·.source)).Nodup ∧ (graph.arcs.map (·.target)).Nodup := by
  rcases unbranched with sources | targets
  · have targets := otherEnds_nodup_of_met sources wellFormed.source_mem
      fun name present => exists_arc_to wellFormed noSource present
    exact ⟨sources, targets⟩
  · have sources := otherEnds_nodup_of_met targets wellFormed.target_mem
      fun name present => exists_arc_from wellFormed noSink present
    exact ⟨sources, targets⟩

theorem unbranched_remove (wellFormed : graph.WellFormed) (unbranched : Unbranched graph.arcs)
    (name : String) : Unbranched (graph.remove name).arcs := by
  rw [arcs_remove wellFormed]
  exact unbranched.mono List.filter_sublist

end Ends

theorem Arranged.walk_of_pointsBack (arranged : Arranged graph order) (wellFormed : graph.WellFormed)
    (unbranched : Unbranched graph.arcs) :
    ∀ arc ∈ graph.arcs, arc.PointsBack order →
      Relation.ReflTransGen (Leads graph.arcs) arc.target arc.source := by
  intro arc member back
  let motive (graph : DependencyGraph) (arc : Arc) : Prop :=
    Unbranched graph.arcs → Relation.ReflTransGen (Leads graph.arcs) arc.target arc.source
  refine arranged.pointsBack_induction (motive := motive) ?_ ?_ wellFormed arc member back unbranched
  · intro graph arc formed noSink noSource _ member unbranched
    obtain ⟨_, targets⟩ := nodup_of_no_ends formed noSink noSource unbranched
    obtain ⟨_, walk, closed⟩ := exists_cycle_after formed noSink (formed.target_mem arc member)
    -- the target leads to a cycle and is entered once, so it lies on the cycle and the arc enters it there
    have round := closed_of_leads_to_closed targets walk closed
    obtain ⟨previous, there, into⟩ := Relation.TransGen.tail'_iff.mp round
    rwa [List.inj_on_of_nodup_map targets member into rfl]
  · intro graph name arc formed earlier unbranched
    have walk := earlier (unbranched_remove formed unbranched name)
    exact walk_mono (arcs_remove_subset formed name) walk

section Same

theorem met_between (firstIn : first ∈ arcs) (secondIn : second ∈ arcs) {between : String}
    (before : Relation.ReflTransGen (Leads arcs) first.target between)
    (after : Relation.ReflTransGen (Leads arcs) between second.source) :
    (∃ arc ∈ arcs, arc.target = between) ∧ ∃ arc ∈ arcs, arc.source = between := by
  constructor
  · rcases before.cases_tail with rfl | ⟨previous, _, into⟩
    · exact ⟨first, firstIn, rfl⟩
    · exact ⟨_, into, rfl⟩
  · rcases after.cases_head with rfl | ⟨next, out, _⟩
    · exact ⟨second, secondIn, rfl⟩
    · exact ⟨_, out, rfl⟩

theorem walk_remove (wellFormed : graph.WellFormed) {start : String}
    (walk : Relation.ReflTransGen (Leads graph.arcs) start finish)
    (avoids : ∀ between, Relation.ReflTransGen (Leads graph.arcs) start between →
      Relation.ReflTransGen (Leads graph.arcs) between finish → between ≠ name) :
    Relation.ReflTransGen (Leads (graph.remove name).arcs) start finish := by
  induction walk using Relation.ReflTransGen.head_induction_on with
  | refl => exact .refl
  | @head start next leads rest ih =>
      have startOther := avoids start .refl (.head leads rest)
      have nextOther := avoids next (.single leads) rest
      have kept := (mem_arcs_remove wellFormed).mpr ⟨leads, startOther, nextOther⟩
      exact .head kept (ih fun between before after => avoids between (.head leads before) after)

/-- A walk from arc to arc does not pass a name that no arc enters or that no arc leaves. -/
theorem walk_remove_end (wellFormed : graph.WellFormed) (firstIn : first ∈ graph.arcs)
    (secondIn : second ∈ graph.arcs)
    (endpoint : (∀ arc ∈ graph.arcs, arc.target ≠ name) ∨ ∀ arc ∈ graph.arcs, arc.source ≠ name)
    (walk : Relation.ReflTransGen (Leads graph.arcs) first.target second.source) :
    Relation.ReflTransGen (Leads (graph.remove name).arcs) first.target second.source := by
  apply walk_remove wellFormed walk
  rintro between before after rfl
  obtain ⟨⟨into, intoIn, enters⟩, out, outIn, leaves⟩ := met_between firstIn secondIn before after
  rcases endpoint with unentered | unleft
  · exact unentered into intoIn enters
  · exact unleft out outIn leaves

/-- The arc into the chosen name shares its circuit with no arc of the rest that closes a circuit there. -/
theorem not_mutual_of_enters (wellFormed : graph.WellFormed)
    (single : (graph.arcs.map (·.source)).Nodup) (firstIn : first ∈ graph.arcs)
    (enters : first.target = name) (kept : second ∈ (graph.remove name).arcs)
    (back : Relation.ReflTransGen (Leads (graph.remove name).arcs) second.target second.source)
    (walk : Relation.ReflTransGen (Leads graph.arcs) second.target first.source) : False := by
  have included := arcs_remove_subset wellFormed name
  have onward := (walk_stays single included kept back walk).2
  have leaving : ∃ arc ∈ (graph.remove name).arcs, arc.source = first.source := by
    rcases onward.cases_head with same | ⟨next, step, _⟩
    · exact ⟨second, kept, same.symm⟩
    · exact ⟨_, step, rfl⟩
  obtain ⟨arc, member, sources⟩ := leaving
  have same := List.inj_on_of_nodup_map single (included arc member) firstIn sources
  exact ((mem_arcs_remove wellFormed).mp member).2.2 (same ▸ enters)

/-- Two arcs that are turned back and lead to each other are one. -/
theorem Arranged.eq_of_pointsBack (arranged : Arranged graph order) (wellFormed : graph.WellFormed)
    (unbranched : Unbranched graph.arcs) {first second : Arc}
    (firstIn : first ∈ graph.arcs) (secondIn : second ∈ graph.arcs)
    (firstBack : first.PointsBack order) (secondBack : second.PointsBack order)
    (forth : Relation.ReflTransGen (Leads graph.arcs) first.target second.source)
    (back : Relation.ReflTransGen (Leads graph.arcs) second.target first.source) :
    first = second := by
  induction arranged with
  | done _ => simp [Arc.PointsBack] at firstBack
  | @sink graph name order _ sink rest ih =>
      have fresh := rest.fresh
      have unleft := (outDegree_eq_zero_iff wellFormed).mp sink
      obtain ⟨firstKept, firstBack⟩ := pointsBack_of_sink wellFormed sink fresh firstIn firstBack
      obtain ⟨secondKept, secondBack⟩ := pointsBack_of_sink wellFormed sink fresh secondIn secondBack
      exact ih (wellFormed.remove name) (unbranched_remove wellFormed unbranched name) firstKept
        secondKept firstBack secondBack
        (walk_remove_end wellFormed firstIn secondIn (.inr unleft) forth)
        (walk_remove_end wellFormed secondIn firstIn (.inr unleft) back)
  | @source graph name order _ source rest ih =>
      have fresh := rest.fresh
      have unentered := (inDegree_eq_zero_iff wellFormed).mp source
      obtain ⟨firstKept, firstBack⟩ := pointsBack_of_source wellFormed source fresh firstIn firstBack
      obtain ⟨secondKept, secondBack⟩ :=
        pointsBack_of_source wellFormed source fresh secondIn secondBack
      exact ih (wellFormed.remove name) (unbranched_remove wellFormed unbranched name) firstKept
        secondKept firstBack secondBack
        (walk_remove_end wellFormed firstIn secondIn (.inl unentered) forth)
        (walk_remove_end wellFormed secondIn firstIn (.inl unentered) back)
  | @highest graph name order noSink noSource _ rest ih =>
      -- turned back are the arcs that the rest turns back and the one arc that enters `name`
      have fresh := rest.fresh
      have restFormed := wellFormed.remove name
      have restUnbranched := unbranched_remove wellFormed unbranched name
      have included := arcs_remove_subset wellFormed name
      have closes := rest.walk_of_pointsBack restFormed restUnbranched
      obtain ⟨sources, targets⟩ := nodup_of_no_ends wellFormed noSink noSource unbranched
      rcases pointsBack_cases wellFormed fresh firstIn firstBack with ⟨firstKept, firstBack⟩ | firstEnters
      · have firstCloses := closes first firstKept firstBack
        rcases pointsBack_cases wellFormed fresh secondIn secondBack with
          ⟨secondKept, secondBack⟩ | secondEnters
        · have secondCloses := closes second secondKept secondBack
          exact ih restFormed restUnbranched firstKept secondKept firstBack secondBack
            (walk_stays sources included firstKept firstCloses forth).1
            (walk_stays sources included secondKept secondCloses back).1
        · exact (not_mutual_of_enters wellFormed sources secondIn secondEnters firstKept firstCloses
            forth).elim
      · rcases pointsBack_cases wellFormed fresh secondIn secondBack with
          ⟨secondKept, secondBack⟩ | secondEnters
        · exact (not_mutual_of_enters wellFormed sources firstIn firstEnters secondKept
            (closes second secondKept secondBack) back).elim
        · exact List.inj_on_of_nodup_map targets firstIn secondIn (firstEnters.trans secondEnters.symm)

end Same

section Feedback

theorem feedbackArcs_eq_of_walks (wellFormed : graph.WellFormed) (unbranched : Unbranched graph.arcs)
    (firstIn : first ∈ graph.feedbackArcs) (secondIn : second ∈ graph.feedbackArcs)
    (forth : Relation.ReflTransGen (Leads graph.arcs) first.target second.source)
    (back : Relation.ReflTransGen (Leads graph.arcs) second.target first.source) : first = second := by
  obtain ⟨firstMember, firstBack⟩ := (mem_feedbackArcs wellFormed).mp firstIn
  obtain ⟨secondMember, secondBack⟩ := (mem_feedbackArcs wellFormed).mp secondIn
  exact (ordering_arranged wellFormed).eq_of_pointsBack wellFormed unbranched firstMember secondMember
    firstBack secondBack forth back

theorem exists_circuit_of_feedback (wellFormed : graph.WellFormed) (unbranched : Unbranched graph.arcs)
    (feedback : arc ∈ graph.feedbackArcs) : ∃ cycle, Circuit graph.arcs cycle ∧ arc ∈ cycle := by
  obtain ⟨member, back⟩ := (mem_feedbackArcs wellFormed).mp feedback
  have walk := (ordering_arranged wellFormed).walk_of_pointsBack wellFormed unbranched arc member back
  exact exists_circuit_through member walk

/-- Circuits of different feedback arcs have no arc in common, so each needs an arc of its own to be cut. -/
theorem feedbackArcs_length_le (wellFormed : graph.WellFormed) (unbranched : Unbranched graph.arcs)
    {cut : List Arc} (broken : ¬ Cyclic (graph.arcs.filter (· ∉ cut))) :
    graph.feedbackArcs.length ≤ cut.length := by
  have hit : ∀ arc ∈ graph.feedbackArcs, ∃ taken ∈ cut,
      ∃ cycle, Circuit graph.arcs cycle ∧ arc ∈ cycle ∧ taken ∈ cycle := by
    intro arc feedback
    obtain ⟨cycle, circuit, member⟩ := exists_circuit_of_feedback wellFormed unbranched feedback
    obtain ⟨taken, onCycle, inCut⟩ := circuit.meets broken
    exact ⟨taken, inCut, cycle, circuit, member, onCycle⟩
  choose! taken inCut cycle circuit onCycle meets using hit
  have distinct : (graph.feedbackArcs.map taken).Nodup := by
    apply List.Nodup.map_on _ (feedbackArcs_nodup wellFormed)
    intro first firstIn second secondIn same
    have shared : taken first ∈ cycle second := same ▸ meets second secondIn
    have leads : Leads graph.arcs (taken first).source (taken first).target :=
      (circuit first firstIn).included _ (meets first firstIn)
    have forth := ((circuit first firstIn).walk_in (onCycle first firstIn) (meets first firstIn)).tail leads
    have back := ((circuit second secondIn).walk_in (onCycle second secondIn) shared).tail leads
    exact feedbackArcs_eq_of_walks wellFormed unbranched firstIn secondIn
      (forth.trans ((circuit second secondIn).walk_in shared (onCycle second secondIn)))
      (back.trans ((circuit first firstIn).walk_in (meets first firstIn) (onCycle first firstIn)))
  have within : graph.feedbackArcs.map taken ⊆ cut := by
    intro other listed
    obtain ⟨arc, feedback, rfl⟩ := List.mem_map.mp listed
    exact inCut arc feedback
  simpa using (distinct.subperm within).length_le

end Feedback

/-- Where every vertex has at most one successor, or every one at most one predecessor, each circuit loses
exactly one arc, nothing else is cut, and no smaller set of arcs would do. -/
theorem feedbackArcs_exact_without_branches (reachable : graph.Reachable)
    (single : (∀ name ∈ graph.vertices, graph.outDegree name ≤ 1) ∨
      (∀ name ∈ graph.vertices, graph.inDegree name ≤ 1)) :
    CutsEachCircuitOnce graph.arcs graph.feedbackArcs := by
  have wellFormed := reachable.wellFormed
  have unbranched := unbranched_of_degrees wellFormed single
  have broken := not_cyclic_without_feedbackArcs wellFormed
  refine ⟨fun cycle circuit => ?_, fun arc => exists_circuit_of_feedback wellFormed unbranched, broken,
    fun cut => feedbackArcs_length_le wellFormed unbranched⟩
  obtain ⟨arc, member, feedback⟩ := circuit.meets broken
  refine ⟨arc, ⟨member, feedback⟩, ?_⟩
  rintro other ⟨otherMember, otherFeedback⟩
  exact feedbackArcs_eq_of_walks wellFormed unbranched otherFeedback feedback
    (circuit.walk_in otherMember member) (circuit.walk_in member otherMember)

/-- Two circles, one with an arc that leads to it. -/
def circlesEntered : DependencyGraph :=
  ofArcs [("a", "b"), ("b", "c"), ("c", "b"), ("d", "e"), ("e", "d")]

/-- Two circles, one with an arc that leads away. -/
def circlesLeft : DependencyGraph :=
  ofArcs [("b", "a"), ("c", "b"), ("b", "c"), ("e", "d"), ("d", "e")]

theorem circles_cut_once :
    Circuit circlesEntered.arcs [⟨"b", "c"⟩, ⟨"c", "b"⟩] ∧ Circuit circlesEntered.arcs [⟨"d", "e"⟩, ⟨"e", "d"⟩] ∧
      CutsEachCircuitOnce circlesEntered.arcs circlesEntered.feedbackArcs ∧
      CutsEachCircuitOnce circlesLeft.arcs circlesLeft.feedbackArcs := by
  refine ⟨⟨by simp, by decide +kernel, ⟨"b", rfl, rfl, rfl⟩, by decide +kernel⟩,
    ⟨by simp, by decide +kernel, ⟨"d", rfl, rfl, rfl⟩, by decide +kernel⟩, ?_, ?_⟩
  · exact feedbackArcs_exact_without_branches (.ofArcs _) (.inl (by decide +kernel))
  · exact feedbackArcs_exact_without_branches (.ofArcs _) (.inr (by decide +kernel))

end DependencyGraph

end ClassMetrics
