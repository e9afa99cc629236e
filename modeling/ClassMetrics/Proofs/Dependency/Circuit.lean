import ClassMetrics.Proofs.Dependency.Walk

namespace ClassMetrics

/-- Each arc starts where the one before it ends. -/
def Trail : String → String → List Arc → Prop
  | first, last, [] => first = last
  | first, last, arc :: rest => arc.source = first ∧ Trail arc.target last rest

structure Circuit (arcs cycle : List Arc) : Prop where
  nonempty : cycle ≠ []
  included : ∀ arc ∈ cycle, arc ∈ arcs
  closed : ∃ start, Trail start start cycle
  distinct : (cycle.map (·.source)).Nodup

variable {arcs fewer more cycle route : List Arc} {arc first second : Arc} {name start finish : String}

theorem walk_mono (included : ∀ arc ∈ fewer, arc ∈ more)
    (walk : Relation.ReflTransGen (Leads fewer) start finish) :
    Relation.ReflTransGen (Leads more) start finish :=
  Relation.ReflTransGen.mono (fun _ _ leads => included _ leads) _ _ walk

namespace Trail

theorem walk (trail : Trail start finish route) (included : ∀ arc ∈ route, arc ∈ arcs) :
    Relation.ReflTransGen (Leads arcs) start finish := by
  induction route generalizing start with
  | nil =>
      cases trail
      exact .refl
  | cons arc rest ih =>
      obtain ⟨rfl, trail⟩ := trail
      have later := ih trail fun other member => included other (List.mem_cons_of_mem _ member)
      exact .head (included arc List.mem_cons_self) later

/-- A trail leads to each of its arcs and from it to the end. -/
theorem walks (trail : Trail start finish route) (member : arc ∈ route) :
    Relation.ReflTransGen (Leads route) start arc.source ∧
      Relation.ReflTransGen (Leads route) arc.target finish := by
  induction route generalizing start with
  | nil => simp at member
  | cons head rest ih =>
      obtain ⟨rfl, trail⟩ := trail
      have kept : ∀ other ∈ rest, other ∈ head :: rest := fun _ => List.mem_cons_of_mem _
      rcases List.mem_cons.mp member with rfl | inRest
      · exact ⟨.refl, trail.walk kept⟩
      · obtain ⟨before, after⟩ := ih trail inRest
        exact ⟨.head List.mem_cons_self (walk_mono kept before), walk_mono kept after⟩

theorem append_arc (trail : Trail start arc.source route) : Trail start arc.target (route ++ [arc]) := by
  induction route generalizing start with
  | nil =>
      cases trail
      exact ⟨rfl, rfl⟩
  | cons head rest ih => exact ⟨trail.1, ih trail.2⟩

/-- The part of a trail from one of its names on. -/
theorem exists_suffix (trail : Trail start finish route)
    (passed : name ∈ route.map (·.source) ++ [finish]) :
    ∃ later, later <:+ route ∧ Trail name finish later := by
  induction route generalizing start with
  | nil =>
      simp only [List.map_nil, List.nil_append, List.mem_singleton] at passed
      exact ⟨[], List.suffix_refl [], passed⟩
  | cons head rest ih =>
      rcases List.mem_cons.mp passed with rfl | further
      · exact ⟨head :: rest, List.suffix_refl _, rfl, trail.2⟩
      · obtain ⟨later, suffix, trailLater⟩ := ih trail.2 further
        exact ⟨later, suffix.trans (List.suffix_cons head rest), trailLater⟩

end Trail

/-- A walk need not pass a name twice. -/
theorem exists_simple_trail (walk : Relation.ReflTransGen (Leads arcs) start finish) :
    ∃ route, Trail start finish route ∧ (∀ arc ∈ route, arc ∈ arcs) ∧
      (route.map (·.source) ++ [finish]).Nodup := by
  induction walk using Relation.ReflTransGen.head_induction_on with
  | refl => exact ⟨[], rfl, by simp, by simp⟩
  | @head start next leads _ ih =>
      obtain ⟨route, trail, included, distinct⟩ := ih
      by_cases passed : start ∈ route.map (·.source) ++ [finish]
      · obtain ⟨later, suffix, trailLater⟩ := trail.exists_suffix passed
        have fewer := (suffix.sublist.map (·.source)).append_right [finish]
        exact ⟨later, trailLater, fun arc member => included arc (suffix.subset member),
          distinct.sublist fewer⟩
      · have longer : ∀ arc ∈ ⟨start, next⟩ :: route, arc ∈ arcs :=
          List.forall_mem_cons.mpr ⟨leads, included⟩
        exact ⟨⟨start, next⟩ :: route, ⟨rfl, trail⟩, longer, List.nodup_cons.mpr ⟨passed, distinct⟩⟩

theorem exists_circuit_through (member : arc ∈ arcs)
    (back : Relation.ReflTransGen (Leads arcs) arc.target arc.source) :
    ∃ cycle, Circuit arcs cycle ∧ arc ∈ cycle := by
  obtain ⟨route, trail, included, distinct⟩ := exists_simple_trail back
  have all : ∀ other ∈ route ++ [arc], other ∈ arcs := by
    intro other listed
    rcases List.mem_append.mp listed with onRoute | closing
    · exact included other onRoute
    · rwa [List.mem_singleton.mp closing]
  have circuit : Circuit arcs (route ++ [arc]) :=
    ⟨by simp, all, ⟨arc.target, trail.append_arc⟩, by simpa using distinct⟩
  exact ⟨route ++ [arc], circuit, by simp⟩

theorem exists_circuit_of_closed (walk : Relation.TransGen (Leads arcs) name name) :
    ∃ cycle, Circuit arcs cycle ∧ ∃ arc ∈ cycle, arc.source = name := by
  obtain ⟨next, leads, back⟩ := Relation.TransGen.head'_iff.mp walk
  obtain ⟨cycle, circuit, member⟩ := exists_circuit_through leads back
  exact ⟨cycle, circuit, ⟨name, next⟩, member, rfl⟩

namespace Circuit

theorem mono (circuit : Circuit fewer cycle) (included : ∀ arc ∈ fewer, arc ∈ more) :
    Circuit more cycle :=
  { circuit with included := fun arc member => included arc (circuit.included arc member) }

/-- Every arc of a circuit leads to every other. -/
theorem walk (circuit : Circuit arcs cycle) (firstIn : first ∈ cycle) (secondIn : second ∈ cycle) :
    Relation.ReflTransGen (Leads cycle) first.target second.source := by
  obtain ⟨start, trail⟩ := circuit.closed
  exact (trail.walks firstIn).2.trans (trail.walks secondIn).1

theorem walk_in (circuit : Circuit arcs cycle) (firstIn : first ∈ cycle) (secondIn : second ∈ cycle) :
    Relation.ReflTransGen (Leads arcs) first.target second.source :=
  walk_mono circuit.included (circuit.walk firstIn secondIn)

theorem cyclic (circuit : Circuit arcs cycle) : Cyclic cycle := by
  obtain ⟨arc, member⟩ := List.exists_mem_of_ne_nil cycle circuit.nonempty
  exact ⟨arc.source, .head' member (circuit.walk member member)⟩

/-- Whatever breaks every cycle takes an arc out of each circuit. -/
theorem meets {cut : List Arc} (circuit : Circuit arcs cycle) (broken : ¬ Cyclic (arcs.filter (· ∉ cut))) :
    ∃ arc ∈ cycle, arc ∈ cut := by
  by_contra missed
  apply broken
  apply circuit.cyclic.mono
  intro arc member
  have kept : arc ∉ cut := fun taken => missed ⟨arc, member, taken⟩
  exact List.mem_filter.mpr ⟨circuit.included arc member, by simpa using kept⟩

end Circuit

end ClassMetrics
