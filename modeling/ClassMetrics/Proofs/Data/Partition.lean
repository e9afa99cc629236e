import ClassMetrics.Data.Partition
import ClassMetrics.Proofs.Data.Distinct
import Mathlib.Data.Set.Card
import Mathlib.Data.Setoid.Basic

namespace ClassMetrics.Partition

/-!
The sets that links leave apart are the classes of the equivalence that the links generate. A partition is
read as a map from members to representatives. Uniting two sets composes that map with another, so the
whole run over the links is a fold of maps: it joins the ends of every link, and it joins no more, since any
other map that does not tell the ends of a link apart does not tell a member from its representative either.
-/

variable {α : Type} [DecidableEq α] {members : List α} {links : List (α × α)} {assigned : α → α}

def ofMap (members : List α) (assigned : α → α) : Partition α :=
  ⟨members.map fun member => (member, assigned member)⟩

/-- The map after the sets of two members are united. -/
def redirect (assigned : α → α) (link : α × α) : α → α :=
  fun member => if assigned member = assigned link.2 then assigned link.1 else assigned member

theorem representative?_ofMap {member : α} (present : member ∈ members) :
    (ofMap members assigned).representative? member = some (assigned member) := by
  induction members with
  | nil => simp at present
  | cons first rest ih =>
      by_cases same : first = member
      · simp [ofMap, representative?, same]
      · have inRest : member ∈ rest := by
          rcases List.mem_cons.mp present with rfl | inRest
          · exact absurd rfl same
          · exact inRest
        have found := ih inRest
        simp only [ofMap, representative?] at found
        simpa [ofMap, representative?, same] using found

theorem unite_ofMap {link : α × α} (firstIn : link.1 ∈ members) (secondIn : link.2 ∈ members) :
    (ofMap members assigned).unite link.1 link.2 = ofMap members (redirect assigned link) := by
  unfold unite
  rw [representative?_ofMap firstIn, representative?_ofMap secondIn]
  simp [ofMap, redirect, Function.comp_def]

theorem ofLinks_eq_ofMap (within : ∀ link ∈ links, link.1 ∈ members ∧ link.2 ∈ members) :
    ofLinks members links = ofMap members (links.foldl redirect id) := by
  have run (assigned : α → α) :
      links.foldl (fun partition link => partition.unite link.1 link.2) (ofMap members assigned) =
        ofMap members (links.foldl redirect assigned) := by
    induction links generalizing assigned with
    | nil => rfl
    | cons link rest ih =>
        obtain ⟨firstIn, secondIn⟩ := within link (by simp)
        rw [List.foldl_cons, unite_ofMap firstIn secondIn]
        exact ih (fun link member => within link (by simp [member])) _
  exact run id

theorem redirect_keeps {link : α × α} {first second : α} (same : assigned first = assigned second) :
    redirect assigned link first = redirect assigned link second := by
  simp [redirect, same]

theorem redirect_joins (link : α × α) : redirect assigned link link.1 = redirect assigned link link.2 := by
  simp [redirect]

theorem foldl_redirect_keeps {first second : α} (same : assigned first = assigned second) :
    links.foldl redirect assigned first = links.foldl redirect assigned second := by
  induction links generalizing assigned with
  | nil => exact same
  | cons link rest ih => exact ih (redirect_keeps same)

theorem foldl_redirect_joins {link : α × α} (member : link ∈ links) :
    links.foldl redirect assigned link.1 = links.foldl redirect assigned link.2 := by
  induction links generalizing assigned with
  | nil => simp at member
  | cons next rest ih =>
      rw [List.foldl_cons]
      rcases List.mem_cons.mp member with rfl | later
      · exact foldl_redirect_keeps (redirect_joins link)
      · exact ih later

theorem redirect_respects {β : Type} {view : α → β} {link : α × α}
    (alike : view link.1 = view link.2) (respects : ∀ member, view (assigned member) = view member)
    (member : α) : view (redirect assigned link member) = view member := by
  unfold redirect
  split
  · rename_i same
    calc view (assigned link.1) = view link.1 := respects link.1
      _ = view link.2 := alike
      _ = view (assigned link.2) := (respects link.2).symm
      _ = view (assigned member) := by rw [same]
      _ = view member := respects member
  · exact respects member

theorem foldl_redirect_respects {β : Type} {view : α → β}
    (alike : ∀ link ∈ links, view link.1 = view link.2)
    (respects : ∀ member, view (assigned member) = view member) (member : α) :
    view (links.foldl redirect assigned member) = view member := by
  induction links generalizing assigned with
  | nil => exact respects member
  | cons link rest ih =>
      exact ih (fun next later => alike next (by simp [later]))
        (redirect_respects (alike link (by simp)) respects)

theorem count_ofMap (members : List α) (assigned : α → α) :
    (ofMap members assigned).count = (members.map assigned).toFinset.card := by
  have images : (ofMap members assigned).assignments.map (·.2) = members.map assigned := by
    simp [ofMap, Function.comp_def]
  have same : (members.map assigned).eraseDups.toFinset = (members.map assigned).toFinset := by
    ext image
    simp [List.mem_eraseDups]
  rw [count, images, ← same, List.toFinset_card_of_nodup (nodup_eraseDups _)]

section OneMore

variable {link : α × α}

/-- The second of two representatives goes, and nothing else does. -/
theorem image_redirect (firstIn : link.1 ∈ members) (apart : assigned link.1 ≠ assigned link.2) :
    (members.map (redirect assigned link)).toFinset =
      (members.map assigned).toFinset.erase (assigned link.2) := by
  ext image
  simp only [List.mem_toFinset, Finset.mem_erase, List.mem_map, redirect]
  constructor
  · intro reached
    obtain ⟨member, memberIn, rfl⟩ := reached
    split
    · exact ⟨apart, link.1, firstIn, rfl⟩
    · rename_i other
      exact ⟨other, member, memberIn, rfl⟩
  · intro kept
    obtain ⟨other, member, memberIn, rfl⟩ := kept
    exact ⟨member, memberIn, if_neg other⟩

theorem ofLinks_concat (within : ∀ link ∈ links, link.1 ∈ members ∧ link.2 ∈ members)
    (firstIn : link.1 ∈ members) (secondIn : link.2 ∈ members) :
    ofLinks members (links ++ [link]) = ofMap members (redirect (links.foldl redirect id) link) := by
  rw [ofLinks_eq_ofMap, List.foldl_concat]
  simpa [or_imp, forall_and, firstIn, secondIn] using within

/-- A further link between sets that are apart takes one from their number. -/
theorem count_ofLinks_concat_of_apart (within : ∀ link ∈ links, link.1 ∈ members ∧ link.2 ∈ members)
    (firstIn : link.1 ∈ members) (secondIn : link.2 ∈ members)
    (apart : links.foldl redirect id link.1 ≠ links.foldl redirect id link.2) :
    (ofLinks members (links ++ [link])).count + 1 = (ofLinks members links).count := by
  have dropped : links.foldl redirect id link.2 ∈ (members.map (links.foldl redirect id)).toFinset := by
    simpa using ⟨link.2, secondIn, rfl⟩
  rw [ofLinks_concat within firstIn secondIn, ofLinks_eq_ofMap within, count_ofMap, count_ofMap,
    image_redirect firstIn apart, Finset.card_erase_add_one dropped]

end OneMore

section Classes

variable {present : α → Prop} {related : {member // present member} → {member // present member} → Prop}

/-- Members have one representative after all links exactly if the equivalence joins them. -/
theorem eqvGen_eq_ker
    (linked : ∀ link ∈ links, ∃ first second, related first second ∧ link = (first.1, second.1))
    (complete : ∀ first second, related first second →
      first = second ∨ (first.1, second.1) ∈ links ∨ (second.1, first.1) ∈ links) :
    Relation.EqvGen.setoid related =
      Setoid.ker fun member : {member // present member} => links.foldl redirect id member.1 := by
  classical
  ext first second
  constructor
  · intro joined
    change Relation.EqvGen related first second at joined
    change links.foldl redirect id first.1 = links.foldl redirect id second.1
    induction joined with
    | rel first second direct =>
        rcases complete first second direct with rfl | forth | back
        · rfl
        · exact foldl_redirect_joins forth
        · exact (foldl_redirect_joins back).symm
    | refl => rfl
    | symm _ _ _ ih => exact ih.symm
    | trans _ _ _ _ _ before after => exact before.trans after
  · intro same
    change links.foldl redirect id first.1 = links.foldl redirect id second.1 at same
    -- The class of a member is a view that does not tell the ends of a link apart.
    let view (member : α) : Option (Quotient (Relation.EqvGen.setoid related)) :=
      if inside : present member then some (Quotient.mk _ ⟨member, inside⟩) else none
    have shown (member : {member // present member}) : view member.1 = some (Quotient.mk _ member) := by
      simp [view, member.2]
    have alike : ∀ link ∈ links, view link.1 = view link.2 := by
      intro link member
      obtain ⟨left, right, direct, rfl⟩ := linked link member
      rw [shown left, shown right]
      exact congrArg some (Quotient.sound (.rel _ _ direct))
    have respects : ∀ member, view (links.foldl redirect id member) = view member :=
      foldl_redirect_respects alike fun _ => rfl
    have agree : view first.1 = view second.1 := by rw [← respects first.1, ← respects second.1, same]
    rw [shown first, shown second] at agree
    exact Quotient.exact (Option.some.inj agree)

omit [DecidableEq α] in
theorem within_members (members_iff : ∀ member, member ∈ members ↔ present member)
    (linked : ∀ link ∈ links, ∃ first second, related first second ∧ link = (first.1, second.1)) :
    ∀ link ∈ links, link.1 ∈ members ∧ link.2 ∈ members := by
  intro link member
  obtain ⟨first, second, _, rfl⟩ := linked link member
  exact ⟨(members_iff _).mpr first.2, (members_iff _).mpr second.2⟩

theorem count_ofLinks (members_iff : ∀ member, member ∈ members ↔ present member)
    (linked : ∀ link ∈ links, ∃ first second, related first second ∧ link = (first.1, second.1))
    (complete : ∀ first second, related first second →
      first = second ∨ (first.1, second.1) ∈ links ∨ (second.1, first.1) ∈ links) :
    (ofLinks members links).count = Nat.card (Quotient (Relation.EqvGen.setoid related)) := by
  have range : Set.range (fun member : {member // present member} => links.foldl redirect id member.1) =
      ((members.map (links.foldl redirect id)).toFinset : Set α) := by
    ext image
    simp [members_iff]
  rw [ofLinks_eq_ofMap (within_members members_iff linked), count_ofMap, eqvGen_eq_ker linked complete,
    Nat.card_congr (Setoid.quotientKerEquivRange _), range, Nat.card_coe_set_eq, Set.ncard_coe_finset]

section OneMoreRelated

variable {first second : {member // present member}}

omit [DecidableEq α] in
theorem eqvGen_insert_of_joined (joined : Relation.EqvGen related first second) :
    Relation.EqvGen.setoid (fun one other => related one other ∨ one = first ∧ other = second) =
      Relation.EqvGen.setoid related := by
  apply le_antisymm
  · apply Setoid.eqvGen_le
    intro one other either
    rcases either with direct | ⟨rfl, rfl⟩
    · exact .rel _ _ direct
    · exact joined
  · exact Setoid.eqvGen_mono fun _ _ => .inl

/-- One more related pair of members that were not joined leaves one class fewer. -/
theorem card_insert_of_apart (members_iff : ∀ member, member ∈ members ↔ present member)
    (linked : ∀ link ∈ links, ∃ first second, related first second ∧ link = (first.1, second.1))
    (complete : ∀ first second, related first second →
      first = second ∨ (first.1, second.1) ∈ links ∨ (second.1, first.1) ∈ links)
    (apart : ¬ Relation.EqvGen related first second) :
    Nat.card (Quotient (Relation.EqvGen.setoid
        fun one other => related one other ∨ one = first ∧ other = second)) + 1 =
      Nat.card (Quotient (Relation.EqvGen.setoid related)) := by
  have grown : (ofLinks members (links ++ [(first.1, second.1)])).count =
      Nat.card (Quotient (Relation.EqvGen.setoid
        fun one other => related one other ∨ one = first ∧ other = second)) := by
    apply count_ofLinks members_iff
    · intro link member
      rcases List.mem_append.mp member with before | last
      · obtain ⟨one, other, direct, rfl⟩ := linked link before
        exact ⟨one, other, .inl direct, rfl⟩
      · exact ⟨first, second, .inr ⟨rfl, rfl⟩, List.mem_singleton.mp last⟩
    · intro one other either
      rcases either with direct | ⟨rfl, rfl⟩
      · rcases complete one other direct with same | forth | back
        · exact .inl same
        · exact .inr (.inl (List.mem_append_left _ forth))
        · exact .inr (.inr (List.mem_append_left _ back))
      · exact .inr (.inl (List.mem_append_right _ (List.mem_singleton_self _)))
  have apartStill : links.foldl redirect id first.1 ≠ links.foldl redirect id second.1 := by
    intro same
    have ker : Setoid.ker (fun member : {member // present member} => links.foldl redirect id member.1)
      first second := same
    rw [← eqvGen_eq_ker linked complete] at ker
    exact apart ker
  rw [← grown, ← count_ofLinks members_iff linked complete]
  exact count_ofLinks_concat_of_apart (within_members members_iff linked) ((members_iff _).mpr first.2)
    ((members_iff _).mpr second.2) apartStill

end OneMoreRelated

end Classes

end ClassMetrics.Partition
