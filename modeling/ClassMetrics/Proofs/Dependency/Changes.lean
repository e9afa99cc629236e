import ClassMetrics.Proofs.Dependency.Graph

namespace ClassMetrics.DependencyGraph

variable {graph : DependencyGraph} {name held source target : String} {slot place : Nat} {side : End} {arc : Arc}
  {ends : Ends Nat}

theorem named_congr {other : DependencyGraph}
    (same : ∀ side, other.nameTable.name? (ends.get side) = graph.nameTable.name? (ends.get side)) :
    other.named ends = graph.named ends := by
  have sources : other.nameOf ends.source = graph.nameOf ends.source := congrArg (Option.getD · "") (same .source)
  have targets : other.nameOf ends.target = graph.nameOf ends.target := congrArg (Option.getD · "") (same .target)
  rw [named, named, sources, targets]

section Ensure

variable (fresh : graph.slot? name = none)

theorem slot?_addVertex (other : String) :
    (graph.addVertex name fresh).slot? other =
      if name = other then some graph.nameTable.slots.next else graph.slot? other :=
  Keyed.get?_insert _ _ _ _

theorem name?_addVertex (slot : Nat) :
    (graph.addVertex name fresh).nameTable.name? slot =
      if graph.nameTable.slots.next = slot then some name else graph.nameTable.name? slot :=
  Slots.get?_insert _ _ _

theorem arcSlots_addVertex : (graph.addVertex name fresh).arcTable.slots = graph.arcTable.slots :=
  ArcTable.slots_cover _ _

theorem ends?_addVertex (place : Nat) :
    (graph.addVertex name fresh).arcTable.ends? place = graph.arcTable.ends? place := by
  rw [ArcTable.ends?, arcSlots_addVertex, ArcTable.ends?]

theorem name?_next (graph : DependencyGraph) : graph.nameTable.name? graph.nameTable.slots.next = none :=
  graph.nameTable.slots.get?_next

theorem name?_addVertex_of_known (present : (graph.nameTable.name? slot).isSome) :
    (graph.addVertex name fresh).nameTable.name? slot = graph.nameTable.name? slot := by
  rw [name?_addVertex, if_neg]
  intro here
  rw [← here, name?_next] at present
  cases present

theorem WellFormed.addVertex (wellFormed : graph.WellFormed) : (graph.addVertex name fresh).WellFormed where
  known place ends found side := by
    rw [ends?_addVertex] at found
    have present := wellFormed.known place ends found side
    rwa [name?_addVertex_of_known fresh present]
  apart place ends found := wellFormed.apart place ends (by rwa [ends?_addVertex] at found)
  single := by
    rw [arcSlots_addVertex]
    exact wellFormed.single

theorem named_addVertex (wellFormed : graph.WellFormed) (found : graph.arcTable.ends? place = some ends) :
    (graph.addVertex name fresh).named ends = graph.named ends :=
  named_congr fun side => name?_addVertex_of_known fresh (wellFormed.known place ends found side)

theorem arcs_addVertex (wellFormed : graph.WellFormed) : (graph.addVertex name fresh).arcs = graph.arcs := by
  rw [arcs, arcs, arcSlots_addVertex]
  apply List.map_congr_left
  intro ends member
  obtain ⟨place, found⟩ := Slots.mem_values.mp member
  exact named_addVertex fresh wellFormed found

theorem neighbours_addVertex (wellFormed : graph.WellFormed) (side : End) (held : String) :
    (graph.addVertex name fresh).neighbours side held = graph.neighbours side held := by
  have listed (slot : Nat) : (graph.addVertex name fresh).arcTable.arcsAt side slot = graph.arcTable.arcsAt side slot :=
    ArcTable.arcsAt_cover _ _
  unfold neighbours
  rw [slot?_addVertex]
  by_cases new : name = held
  · subst new
    -- No arc can be at the slot of a name that is not there.
    have none : graph.arcTable.arcsAt side graph.nameTable.slots.next = [] := by
      refine List.eq_nil_iff_forall_not_mem.mpr fun place member => ?_
      obtain ⟨ends, found, here⟩ := ArcTable.mem_arcsAt.mp member
      have present := wellFormed.known place ends found side
      rw [here, name?_next] at present
      cases present
    simp [fresh, listed, none]
  · rw [if_neg new]
    split
    · rfl
    · rename_i slot found
      rw [listed]
      apply List.filterMap_congr
      intro place member
      obtain ⟨ends, held, _⟩ := ArcTable.mem_arcsAt.mp member
      rw [ends?_addVertex, held, Option.map_some, Option.map_some, named_addVertex fresh wellFormed held]

end Ensure

theorem ensure_of_mem (present : name ∈ graph.vertices) : graph.ensure name = graph := by
  unfold ensure enter
  split
  · rfl
  · rename_i absent
    rw [mem_vertices, absent] at present
    cases present

theorem ensure_of_fresh (fresh : graph.slot? name = none) : graph.ensure name = graph.addVertex name fresh := by
  unfold ensure enter
  split
  · rename_i found
    cases fresh.symm.trans found
  · rfl

/-- What holds of a graph with or without the name, holds of it with the name made sure of. -/
theorem ensure_induction {motive : DependencyGraph → Prop} (graph : DependencyGraph) (name : String)
    (known : name ∈ graph.vertices → motive graph)
    (added : ∀ fresh : graph.slot? name = none, motive (graph.addVertex name fresh)) : motive (graph.ensure name) := by
  cases found : graph.slot? name with
  | none =>
      rw [ensure_of_fresh found]
      exact added found
  | some slot =>
      have present : name ∈ graph.vertices := mem_vertices.mpr (by rw [found]; rfl)
      rw [ensure_of_mem present]
      exact known present

protected theorem WellFormed.ensure (wellFormed : graph.WellFormed) (name : String) : (graph.ensure name).WellFormed :=
  ensure_induction graph name (fun _ => wellFormed) fun fresh => wellFormed.addVertex fresh

theorem arcs_ensure (wellFormed : graph.WellFormed) (name : String) : (graph.ensure name).arcs = graph.arcs :=
  ensure_induction (motive := fun changed => changed.arcs = graph.arcs) graph name (fun _ => rfl) fun fresh =>
    arcs_addVertex fresh wellFormed

theorem neighbours_ensure (wellFormed : graph.WellFormed) (name : String) (side : End) (held : String) :
    (graph.ensure name).neighbours side held = graph.neighbours side held :=
  ensure_induction (motive := fun changed => changed.neighbours side held = graph.neighbours side held) graph name
    (fun _ => rfl) fun fresh => neighbours_addVertex fresh wellFormed side held

theorem slot?_ensure_self (graph : DependencyGraph) (name : String) :
    (graph.ensure name).slot? name = some (graph.enter name).1 := by
  unfold ensure enter
  split
  · rename_i slot found
    exact found
  · rename_i fresh
    rw [slot?_addVertex, if_pos rfl]

theorem slot?_ensure (found : graph.slot? held = some slot) (name : String) :
    (graph.ensure name).slot? held = some slot := by
  apply ensure_induction (motive := fun changed => changed.slot? held = some slot) graph name (fun _ => found)
  intro fresh
  rw [slot?_addVertex, if_neg, found]
  intro same
  rw [same, found] at fresh
  cases fresh

theorem mem_vertices_ensure : held ∈ (graph.ensure name).vertices ↔ held = name ∨ held ∈ graph.vertices := by
  apply ensure_induction graph name
    (motive := fun changed => held ∈ changed.vertices ↔ held = name ∨ held ∈ graph.vertices)
  · intro present
    exact ⟨.inr, fun either => either.elim (fun same => same ▸ present) id⟩
  · intro fresh
    rw [mem_vertices, slot?_addVertex, mem_vertices]
    by_cases new : name = held
    · simp [new]
    · simp [new, Ne.symm new]

/-- What an arc is that may be added. -/
structure Fits (graph : DependencyGraph) (ends : Ends Nat) : Prop where
  known : ∀ side, (graph.nameTable.name? (ends.get side)).isSome
  apart : ends.source ≠ ends.target
  fresh : ∀ place, graph.arcTable.ends? place ≠ some ends

section Connect

variable (inside : ∀ side, ends.get side < graph.nameTable.size)

theorem ends?_addArc (place : Nat) :
    (graph.addArc ends inside).arcTable.ends? place =
      if graph.arcTable.slots.next = place then some ends else graph.arcTable.ends? place :=
  ArcTable.ends?_add (graph.headed ▸ inside) place

theorem exists_arcs_addArc :
    ∃ before after, graph.arcs = before ++ after ∧
      (graph.addArc ends inside).arcs = before ++ graph.named ends :: after := by
  obtain ⟨before, after, old, grown⟩ := graph.arcTable.slots.exists_values_insert ends
  refine ⟨before.map graph.named, after.map graph.named, ?_, ?_⟩
  · rw [arcs, old, List.map_append]
  · change ((graph.arcTable.slots.insert ends).values.map graph.named) = _
    rw [grown, List.map_append, List.map_cons]

theorem neighbours_addArc (fits : graph.Fits ends) (side : End) (held : String) :
    (graph.addArc ends inside).neighbours side held =
      if (graph.named ends).get side = held then (graph.named ends).get side.other :: graph.neighbours side held
      else graph.neighbours side held := by
  have old (slot : Nat) : (graph.arcTable.arcsAt side slot).filterMap
      (fun place =>
        ((graph.addArc ends inside).arcTable.ends? place).map fun ends => (graph.named ends).get side.other) =
      (graph.arcTable.arcsAt side slot).filterMap
        fun place => (graph.arcTable.ends? place).map fun ends => (graph.named ends).get side.other := by
    apply List.filterMap_congr
    intro place member
    obtain ⟨ends, found, _⟩ := ArcTable.mem_arcsAt.mp member
    have other : graph.arcTable.slots.next ≠ place := by
      intro new
      rw [← new] at found
      cases graph.arcTable.slots.get?_next.symm.trans found
    rw [ends?_addArc, if_neg other]
  have here : (graph.named ends).get side = held ↔ graph.slot? held = some (ends.get side) := by
    rw [get_named, nameOf_eq_iff (fits.known side)]
  cases found : graph.slot? held with
  | none =>
      have absent : (graph.addArc ends inside).slot? held = none := found
      have elsewhere : (graph.named ends).get side ≠ held := by simp [here, found]
      rw [if_neg elsewhere, neighbours_of_absent found, neighbours_of_absent absent]
  | some slot =>
      have present : (graph.addArc ends inside).slot? held = some slot := found
      have listed := ArcTable.arcsAt_add (graph.headed ▸ inside) side slot
      rw [neighbours_of_slot? found, neighbours_of_slot? present]
      change (ArcTable.arcsAt (graph.arcTable.add ends (graph.headed ▸ inside)) side slot).filterMap
        (fun place =>
          ((graph.addArc ends inside).arcTable.ends? place).map fun ends => (graph.named ends).get side.other) = _
      rw [listed]
      rw [found, Option.some.injEq] at here
      by_cases same : ends.get side = slot
      · rw [if_pos same, if_pos (here.mpr same.symm), List.filterMap_cons, ends?_addArc, if_pos rfl, old]
        rfl
      · rw [if_neg same, if_neg fun there => same (here.mp there).symm, old]

theorem WellFormed.addArc (wellFormed : graph.WellFormed) (fits : graph.Fits ends) :
    (graph.addArc ends inside).WellFormed where
  known place others found side := by
    rw [ends?_addArc] at found
    split at found
    · cases found
      exact fits.known side
    · exact wellFormed.known place others found side
  apart place others found := by
    rw [ends?_addArc] at found
    split at found
    · cases found
      exact fits.apart
    · exact wellFormed.apart place others found
  single first second others atFirst atSecond := by
    have one := (ends?_addArc inside first).symm.trans atFirst
    have two := (ends?_addArc inside second).symm.trans atSecond
    split at one
    · rename_i here
      cases one
      split at two
      · rename_i there
        exact here.symm.trans there
      · exact absurd two (fits.fresh second)
    · split at two
      · cases two
        exact absurd one (fits.fresh first)
      · exact wellFormed.single first second others one two

/-- An arc from a name to itself registers the name alone. -/
theorem connect_self (graph : DependencyGraph) (name : String) : graph.connect name name = graph.ensure name := by
  simp [connect, ensure]

theorem joins_enter (wellFormed : graph.WellFormed) (source target : String) :
    ((graph.ensure source).ensure target).joins (graph.enter source).1 ((graph.ensure source).enter target).1 =
      graph.hasArc ⟨source, target⟩ := by
  have first := wellFormed.ensure source
  have starts := slot?_ensure (graph.slot?_ensure_self source) target
  have reaches := (graph.ensure source).slot?_ensure_self target
  have looked : ((graph.ensure source).ensure target).hasArc ⟨source, target⟩ =
      ((graph.ensure source).ensure target).joins (graph.enter source).1 ((graph.ensure source).enter target).1 := by
    simp [hasArc, starts, reaches]
  rw [← looked, Bool.eq_iff_iff, (first.ensure target).hasArc_iff, wellFormed.hasArc_iff, arcs_ensure first,
    arcs_ensure wellFormed]

theorem connect_refused (wellFormed : graph.WellFormed) (refused : graph.accepts source target = false) :
    graph.connect source target = (graph.ensure source).ensure target := by
  by_cases loop : source = target
  · subst loop
    rw [connect_self, ensure_of_mem (mem_vertices_ensure.mpr (.inl rfl))]
  · have there := joins_enter wellFormed source target
    have present : graph.hasArc ⟨source, target⟩ = true := by simpa [accepts, loop] using refused
    rw [present] at there
    unfold connect
    rw [if_neg loop]
    exact if_pos there

/-- The slots that two names are entered in hold these names. -/
theorem name?_entered (graph : DependencyGraph) (source target : String) (side : End) :
    ((graph.ensure source).ensure target).nameTable.name?
      (Ends.get ⟨(graph.enter source).1, ((graph.ensure source).enter target).1⟩ side) =
        some (Arc.get ⟨source, target⟩ side) := by
  cases side with
  | source => exact NameTable.slot?_eq_some_iff.mp (slot?_ensure (graph.slot?_ensure_self source) target)
  | target => exact NameTable.slot?_eq_some_iff.mp ((graph.ensure source).slot?_ensure_self target)

theorem connect_accepted (wellFormed : graph.WellFormed) (accepted : graph.accepts source target = true) :
    ∃ ends inside, graph.connect source target = ((graph.ensure source).ensure target).addArc ends inside ∧
      ((graph.ensure source).ensure target).Fits ends ∧
      ((graph.ensure source).ensure target).named ends = ⟨source, target⟩ := by
  obtain ⟨different, absent⟩ : source ≠ target ∧ graph.hasArc ⟨source, target⟩ = false := by
    simpa [accepts] using accepted
  have apart := joins_enter wellFormed source target
  have starts := slot?_ensure (graph.slot?_ensure_self source) target
  have reaches := (graph.ensure source).slot?_ensure_self target
  have name := graph.name?_entered source target
  rw [absent] at apart
  refine ⟨⟨(graph.enter source).1, ((graph.ensure source).enter target).1⟩, ?_, ?_, ⟨?_, ?_, ?_⟩, ?_⟩
  · intro side
    exact Slots.lt_size_of_get? (name side)
  · unfold connect
    rw [if_neg different]
    exact if_neg (by simpa [ensure] using apart)
  · intro side
    rw [name side]
    rfl
  · intro same
    change (graph.enter source).1 = ((graph.ensure source).enter target).1 at same
    rw [same] at starts
    exact different (NameTable.name_eq_of_slot? starts reaches)
  · intro place found
    rw [joins_iff.mpr ⟨place, found⟩] at apart
    cases apart
  · refine Arc.eq_of_get .source ?_ ?_
    · rw [get_named, nameOf, name .source]
      rfl
    · rw [get_named, nameOf, name End.source.other]
      rfl

end Connect

section Remove

variable (found : graph.slot? name = some slot)

theorem remove_of_slot? : graph.remove name = graph.removeVertex name slot found := by
  unfold remove
  split
  · rename_i absent
    cases absent.symm.trans found
  · rename_i there
    cases there.symm.trans found
    rfl

theorem slot?_removeVertex (other : String) :
    (graph.removeVertex name slot found).slot? other = if name = other then none else graph.slot? other :=
  Keyed.get?_erase _ _ _

theorem name?_removeVertex (other : Nat) :
    (graph.removeVertex name slot found).nameTable.name? other =
      if slot = other then none else graph.nameTable.name? other :=
  Slots.get?_release (by simp [NameTable.name?_of_slot? found]) other

theorem ends?_removeVertex (place : Nat) :
    (graph.removeVertex name slot found).arcTable.ends? place =
      (graph.arcTable.ends? place).filter (ArcTable.avoids slot) :=
  graph.arcTable.ends?_clear slot place

theorem named_removeVertex (away : ArcTable.avoids slot ends = true) :
    (graph.removeVertex name slot found).named ends = graph.named ends := by
  apply named_congr
  intro side
  rw [name?_removeVertex, if_neg (Ne.symm ((ArcTable.avoids_iff side).mp away).1)]

theorem WellFormed.removeVertex (wellFormed : graph.WellFormed) : (graph.removeVertex name slot found).WellFormed where
  known place ends held side := by
    rw [ends?_removeVertex, Option.filter_eq_some_iff] at held
    rw [name?_removeVertex, if_neg (Ne.symm ((ArcTable.avoids_iff side).mp held.2).1)]
    exact wellFormed.known place ends held.1 side
  apart place ends held := by
    rw [ends?_removeVertex, Option.filter_eq_some_iff] at held
    exact wellFormed.apart place ends held.1
  single first second ends atFirst atSecond := by
    have one := (ends?_removeVertex found first).symm.trans atFirst
    have two := (ends?_removeVertex found second).symm.trans atSecond
    rw [Option.filter_eq_some_iff] at one two
    exact wellFormed.single first second ends one.1 two.1

include found in
theorem WellFormed.get_eq_name_iff (wellFormed : graph.WellFormed) (held : graph.arcTable.ends? place = some ends)
    (side : End) : (graph.named ends).get side = name ↔ ends.get side = slot := by
  rw [wellFormed.get_eq_iff held, found, Option.some.injEq, eq_comm]

theorem arcs_removeVertex (wellFormed : graph.WellFormed) :
    (graph.removeVertex name slot found).arcs = graph.arcs.filter fun arc => !arc.touches name := by
  have values : (graph.removeVertex name slot found).arcTable.slots.values =
      graph.arcTable.slots.values.filter (ArcTable.avoids slot) := graph.arcTable.values_clear slot
  rw [arcs, arcs, values, List.filter_map]
  have same : graph.arcTable.slots.values.filter (ArcTable.avoids slot) =
      graph.arcTable.slots.values.filter ((fun arc => !arc.touches name) ∘ graph.named) := by
    apply List.filter_congr
    intro ends member
    obtain ⟨place, held⟩ := Slots.mem_values.mp member
    have starts := wellFormed.get_eq_name_iff found held .source
    have reaches := wellFormed.get_eq_name_iff found held .target
    simp only [Arc.get, Ends.get] at starts reaches
    simp [ArcTable.avoids, Arc.touches, starts, reaches, beq_eq_decide]
  rw [← same]
  apply List.map_congr_left
  intro ends member
  exact named_removeVertex found (List.mem_filter.mp member).2

theorem neighbours_removeVertex (wellFormed : graph.WellFormed) (kept : held ≠ name) (side : End) :
    (graph.removeVertex name slot found).neighbours side held = (graph.neighbours side held).filter (· ≠ name) := by
  have looked := slot?_removeVertex found held
  rw [if_neg (Ne.symm kept)] at looked
  cases there : graph.slot? held with
  | none => rw [neighbours_of_absent there, neighbours_of_absent (looked.trans there), List.filter_nil]
  | some place =>
      have listed : (graph.removeVertex name slot found).arcTable.arcsAt side place =
          (graph.arcTable.arcsAt side place).filter fun arc => (graph.arcTable.ends? arc).any (ArcTable.avoids slot) :=
        graph.arcTable.arcsAt_clear slot side place
      have elsewhere : place ≠ slot := by
        intro same
        rw [same] at there
        exact kept (NameTable.name_eq_of_slot? there found)
      rw [neighbours_of_slot? there, neighbours_of_slot? (looked.trans there), listed, List.filter_filterMap,
        List.filterMap_filter]
      apply List.filterMap_congr
      intro arc member
      obtain ⟨ends, held, here⟩ := ArcTable.mem_arcsAt.mp member
      -- Of an arc at the kept name only the other end can be the removed name.
      have across := wellFormed.get_eq_name_iff found held side.other
      rw [ends?_removeVertex, held]
      by_cases gone : ends.get side.other = slot
      · have touches : ArcTable.avoids slot ends = false := by
          rw [Bool.eq_false_iff, Ne, ArcTable.avoids_iff side]
          exact fun away => away.2 gone
        simp [touches, across.mpr gone, Option.filter_some]
      · have away : ArcTable.avoids slot ends = true := (ArcTable.avoids_iff side).mpr ⟨here ▸ elsewhere, gone⟩
        have other : (graph.named ends).get side.other ≠ name := mt across.mp gone
        simp [away, other, named_removeVertex found away, Option.filter_some]

end Remove

theorem remove_of_absent (absent : name ∉ graph.vertices) : graph.remove name = graph := by
  unfold remove
  split
  · rfl
  · rename_i found
    rw [mem_vertices, found] at absent
    exact absurd rfl absent

/-- What holds of a graph without the name, whether it was there before or not. -/
theorem remove_induction {motive : DependencyGraph → Prop} (graph : DependencyGraph) (name : String)
    (absent : name ∉ graph.vertices → motive graph)
    (removed : ∀ slot, ∀ found : graph.slot? name = some slot, motive (graph.removeVertex name slot found)) :
    motive (graph.remove name) := by
  cases found : graph.slot? name with
  | none =>
      have missing : name ∉ graph.vertices := by rw [mem_vertices, found]; simp
      rw [remove_of_absent missing]
      exact absent missing
  | some slot =>
      rw [remove_of_slot? found]
      exact removed slot found

protected theorem WellFormed.connect (wellFormed : graph.WellFormed) (source target : String) :
    (graph.connect source target).WellFormed := by
  have ends := (wellFormed.ensure source).ensure target
  cases accepted : graph.accepts source target with
  | false =>
      rw [connect_refused wellFormed accepted]
      exact ends
  | true =>
      obtain ⟨_, inside, same, fits, _⟩ := connect_accepted wellFormed accepted
      rw [same]
      exact ends.addArc inside fits

protected theorem WellFormed.remove (wellFormed : graph.WellFormed) (name : String) :
    (graph.remove name).WellFormed :=
  remove_induction graph name (fun _ => wellFormed) fun _ found => wellFormed.removeVertex found

theorem arcs_remove (wellFormed : graph.WellFormed) :
    (graph.remove name).arcs = graph.arcs.filter fun arc => !arc.touches name := by
  apply remove_induction (motive := fun changed => changed.arcs = graph.arcs.filter fun arc => !arc.touches name)
  · intro absent
    refine (List.filter_eq_self.mpr fun arc member => ?_).symm
    rw [wellFormed.touches_absent absent member]
    rfl
  · intro slot found
    exact arcs_removeVertex found wellFormed

theorem mem_arcs_remove (wellFormed : graph.WellFormed) {arc : Arc} :
    arc ∈ (graph.remove name).arcs ↔ arc ∈ graph.arcs ∧ arc.source ≠ name ∧ arc.target ≠ name := by
  rw [arcs_remove wellFormed, List.mem_filter]
  simp [Arc.touches]

theorem arcs_remove_subset (wellFormed : graph.WellFormed) (name : String) :
    ∀ arc ∈ (graph.remove name).arcs, arc ∈ graph.arcs :=
  fun _ member => ((mem_arcs_remove wellFormed).mp member).1

theorem neighbours_remove (wellFormed : graph.WellFormed) (kept : held ≠ name) (side : End) :
    (graph.remove name).neighbours side held = (graph.neighbours side held).filter (· ≠ name) := by
  apply remove_induction
    (motive := fun changed => changed.neighbours side held = (graph.neighbours side held).filter (· ≠ name))
  · intro absent
    refine (List.filter_eq_self.mpr fun other member => ?_).symm
    obtain ⟨arc, among, _, across⟩ := wellFormed.mem_neighbours.mp member
    have present := across ▸ wellFormed.get_mem among side.other
    simpa using fun same : other = name => absent (same ▸ present)
  · intro slot found
    exact neighbours_removeVertex found wellFormed kept side

theorem slot?_remove (other : String) (different : held ≠ other) :
    (graph.remove other).slot? held = graph.slot? held := by
  apply remove_induction (motive := fun changed => changed.slot? held = graph.slot? held) graph other (fun _ => rfl)
  intro slot found
  rw [slot?_removeVertex, if_neg (Ne.symm different)]

end ClassMetrics.DependencyGraph
