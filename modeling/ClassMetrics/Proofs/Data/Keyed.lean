import ClassMetrics.Data.Lists
import Mathlib.Data.List.Induction
import Mathlib.Data.List.Sort

namespace ClassMetrics.Keyed

variable {α : Type} {key : String} {value : α} {entries others : List (String × α)}

theorem ofList_concat (entries : List (String × α)) (entry : String × α) :
    ofList (entries ++ [entry]) = insert entry.1 entry.2 (ofList entries) := by
  simp [ofList]

theorem map_insert {β : Type} (change : α → β) (key : String) (value : α) (entries : List (String × α)) :
    (insert key value entries).map (fun entry => (entry.1, change entry.2)) =
      insert key (change value) (entries.map fun entry => (entry.1, change entry.2)) := by
  induction entries with
  | nil => rfl
  | cons entry rest ih =>
      obtain ⟨other, held⟩ := entry
      simp only [List.map_cons, insert]
      split_ifs
      · rfl
      · rfl
      · rw [List.map_cons, ih]

theorem map_ofList {β : Type} (change : α → β) (entries : List (String × α)) :
    (ofList entries).map (fun entry => (entry.1, change entry.2)) =
      ofList (entries.map fun entry => (entry.1, change entry.2)) := by
  induction entries using List.reverseRecOn with
  | nil => rfl
  | append_singleton entries entry ih =>
      rw [ofList_concat, map_insert, ih, List.map_append, List.map_singleton, ofList_concat]

theorem get?_ofList (key : String) (entries : List (String × α)) :
    get? key (ofList entries) = (entries.filter (·.1 == key)).getLast?.map (·.2) := by
  induction entries using List.reverseRecOn with
  | nil => rfl
  | append_singleton entries entry ih =>
      rw [ofList_concat, get?_insert, ih, List.filter_append]
      by_cases same : entry.1 = key <;> simp [same]

/-- Each key once, and the keys in their order. -/
def Increasing (entries : List (String × α)) : Prop :=
  (entries.map (·.1)).Pairwise (· < ·)

theorem mem_keys_insert {other : String} (member : other ∈ (insert key value entries).map (·.1)) :
    other = key ∨ other ∈ entries.map (·.1) := by
  induction entries with
  | nil => exact .inl (by simpa [insert] using member)
  | cons entry rest ih =>
      obtain ⟨place, held⟩ := entry
      unfold insert at member
      split_ifs at member with before found
      · simpa using member
      · subst found
        simp only [List.map_cons, List.mem_cons] at member ⊢
        exact .inr member
      · simp only [List.map_cons, List.mem_cons] at member ⊢
        rcases member with first | later
        · exact .inr (.inl first)
        · rcases ih later with added | there
          · exact .inl added
          · exact .inr (.inr there)

theorem Increasing.insert (increasing : Increasing entries) (key : String) (value : α) :
    Increasing (insert key value entries) := by
  induction entries with
  | nil => simp [Keyed.insert, Increasing]
  | cons entry rest ih =>
      obtain ⟨place, held⟩ := entry
      obtain ⟨least, sorted⟩ := List.pairwise_cons.mp increasing
      unfold Keyed.insert
      split_ifs with before found
      · apply List.pairwise_cons.mpr
        refine ⟨?_, increasing⟩
        intro other member
        rcases List.mem_cons.mp member with rfl | later
        · exact before
        · exact String.lt_trans before (least other later)
      · subst found
        exact List.pairwise_cons.mpr ⟨least, sorted⟩
      · apply List.pairwise_cons.mpr
        refine ⟨?_, ih sorted⟩
        intro other member
        rcases mem_keys_insert member with rfl | there
        · by_contra notAfter
          exact found (String.le_antisymm (String.not_lt.mp notAfter) (String.not_lt.mp before))
        · exact least other there

theorem increasing_ofList (entries : List (String × α)) : Increasing (ofList entries) := by
  induction entries using List.reverseRecOn with
  | nil => exact .nil
  | append_singleton entries entry ih =>
      rw [ofList_concat]
      exact ih.insert entry.1 entry.2

theorem get?_eq_some_iff (increasing : Increasing entries) :
    get? key entries = some value ↔ (key, value) ∈ entries := by
  induction entries with
  | nil => simp [get?]
  | cons entry rest ih =>
      obtain ⟨place, held⟩ := entry
      obtain ⟨least, sorted⟩ := List.pairwise_cons.mp increasing
      by_cases here : place = key
      · subst here
        have absent : (place, value) ∉ rest := by
          intro later
          exact String.lt_irrefl place (least place (List.mem_map_of_mem later))
        simp [get?, absent, eq_comm]
      · have next := ih sorted
        simp only [get?] at next
        simp [get?, here, Ne.symm here, next]

theorem mem_keys_iff (increasing : Increasing entries) :
    key ∈ entries.map (·.1) ↔ (get? key entries).isSome := by
  rw [Option.isSome_iff_exists]
  simp [get?_eq_some_iff increasing]

theorem eq_of_get?_eq (increasing : Increasing entries) (alsoIncreasing : Increasing others)
    (same : ∀ key, get? key entries = get? key others) : entries = others := by
  apply (List.pairwise_map.mp increasing).eq_of_mem_iff (List.pairwise_map.mp alsoIncreasing)
  intro entry
  rw [← get?_eq_some_iff increasing, ← get?_eq_some_iff alsoIncreasing, same]

theorem keys_eq_of_isSome_eq {β : Type} {others : List (String × β)} (increasing : Increasing entries)
    (alsoIncreasing : Increasing others) (same : ∀ key, (get? key entries).isSome = (get? key others).isSome) :
    entries.map (·.1) = others.map (·.1) := by
  apply List.Pairwise.eq_of_mem_iff increasing alsoIncreasing
  intro key
  rw [mem_keys_iff increasing, mem_keys_iff alsoIncreasing, same]

end ClassMetrics.Keyed
