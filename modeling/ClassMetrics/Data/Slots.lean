namespace ClassMetrics

/-- The value goes to its place, or behind all others if that is its place. -/
def putAt {α : Type} (cells : Array α) (place : Nat) (value : α) : Array α :=
  if place < cells.size then cells.setIfInBounds place value else cells.push value

theorem getElem?_putAt {α : Type} {cells : Array α} {place : Nat} (inside : place ≤ cells.size) (value : α)
    (other : Nat) : (putAt cells place value)[other]? = if place = other then some value else cells[other]? := by
  unfold putAt
  by_cases held : place < cells.size
  · rw [if_pos held, Array.getElem?_setIfInBounds, if_pos held]
  · have last : place = cells.size := by omega
    subst last
    rw [if_neg held, Array.getElem?_push]
    simp only [eq_comm]

theorem size_putAt {α : Type} {cells : Array α} {place : Nat} (inside : place ≤ cells.size) (value : α) :
    (putAt cells place value).size = max cells.size (place + 1) := by
  unfold putAt
  by_cases held : place < cells.size
  · rw [if_pos held, Array.size_setIfInBounds]
    omega
  · rw [if_neg held, Array.size_push]
    omega

/-- Numbered slots. A new value takes the slot that was freed last, or a new slot at the end. -/
structure Slots (α : Type) where
  cells : Array (Option α)
  /-- Slots to use again, the one freed last first. -/
  free : List Nat
  distinct : free.Nodup
  mem_free : ∀ slot, slot ∈ free ↔ cells[slot]? = some none
deriving Repr, DecidableEq

namespace Slots

variable {α : Type}

def empty : Slots α where
  cells := #[]
  free := []
  distinct := .nil
  mem_free _ := by simp

section Operations

variable (slots : Slots α)

def get? (slot : Nat) : Option α :=
  slots.cells[slot]?.join

def values : List α :=
  slots.cells.toList.filterMap id

/-- The slot that the next value takes. -/
def next : Nat :=
  slots.free.head?.getD slots.cells.size

theorem next_le : slots.next ≤ slots.cells.size := by
  unfold next
  cases unused : slots.free with
  | nil => exact Nat.le_refl _
  | cons slot rest =>
      have vacant := (slots.mem_free slot).mp (by simp [unused])
      exact Nat.le_of_lt (Array.getElem?_eq_some_iff.mp vacant).1

def insert (value : α) : Slots α where
  cells := putAt slots.cells slots.next (some value)
  free := slots.free.tail
  distinct := slots.distinct.sublist (List.tail_sublist _)
  mem_free slot := by
    have vacant := slots.mem_free slot
    have distinct := slots.distinct
    rw [getElem?_putAt slots.next_le]
    unfold next
    cases unused : slots.free with
    | nil =>
        rw [unused] at vacant
        by_cases here : slots.cells.size = slot
        · simp [here]
        · simpa [here] using vacant
    | cons first rest =>
        rw [unused] at vacant distinct
        have apart := (List.nodup_cons.mp distinct).1
        by_cases here : first = slot
        · simpa [here] using here ▸ apart
        · simpa [here, Ne.symm here] using vacant

variable {slots} in
theorem lt_size_of_isSome {slot : Nat} (held : (slots.get? slot).isSome) : slot < slots.cells.size := by
  refine Nat.lt_of_not_le fun outside => ?_
  rw [get?, Array.getElem?_eq_none outside] at held
  cases held

def release (slot : Nat) (held : (slots.get? slot).isSome) : Slots α where
  cells := slots.cells.setIfInBounds slot none
  free := slot :: slots.free
  distinct := by
    refine List.nodup_cons.mpr ⟨fun vacant => ?_, slots.distinct⟩
    rw [get?, (slots.mem_free slot).mp vacant] at held
    cases held
  mem_free other := by
    rw [Array.getElem?_setIfInBounds, if_pos (lt_size_of_isSome held), List.mem_cons, slots.mem_free]
    by_cases here : slot = other
    · simp [here]
    · simp [here, Ne.symm here]

end Operations

variable {slots : Slots α} {slot : Nat} {value : α}

theorem lt_size_of_get? (held : slots.get? slot = some value) : slot < slots.cells.size :=
  lt_size_of_isSome (by rw [held]; rfl)

theorem get?_next (slots : Slots α) : slots.get? slots.next = none := by
  unfold get? next
  cases unused : slots.free with
  | nil => simp
  | cons slot rest =>
      have vacant := (slots.mem_free slot).mp (by simp [unused])
      simp [vacant]

theorem get?_insert (slots : Slots α) (value : α) (slot : Nat) :
    (slots.insert value).get? slot = if slots.next = slot then some value else slots.get? slot := by
  unfold get? insert
  rw [getElem?_putAt slots.next_le]
  by_cases here : slots.next = slot <;> simp [here]

theorem get?_release (held : (slots.get? slot).isSome) (other : Nat) :
    (slots.release slot held).get? other = if slot = other then none else slots.get? other := by
  unfold get? release
  rw [Array.getElem?_setIfInBounds]
  by_cases here : slot = other
  · subst here
    simp [lt_size_of_isSome held]
  · simp [here]

theorem mem_values : value ∈ slots.values ↔ ∃ slot, slots.get? slot = some value := by
  rw [values, List.mem_filterMap]
  simp only [id_eq, exists_eq_right, List.mem_iff_getElem?, get?, Option.join_eq_some_iff, Array.getElem?_toList]

/-- The values before a slot, and those behind it. -/
theorem exists_values_split (inside : slot < slots.cells.size) :
    ∃ before after, slots.values = before ++ (slots.get? slot).toList ++ after ∧
      ∀ cell : Option α, (slots.cells.toList.set slot cell).filterMap id = before ++ cell.toList ++ after := by
  have length : slot < slots.cells.toList.length := inside
  have cell : slots.get? slot = slots.cells.toList[slot] := by
    rw [get?, Array.getElem?_eq_getElem inside]
    rfl
  have changed (cell : Option α) : (slots.cells.toList.set slot cell).filterMap id =
      (slots.cells.toList.take slot).filterMap id ++ cell.toList ++
        (slots.cells.toList.drop (slot + 1)).filterMap id := by
    rw [List.set_eq_take_append_cons_drop, if_pos length]
    cases cell <;> simp
  refine ⟨_, _, ?_, changed⟩
  rw [← changed, cell, List.set_getElem_self]
  rfl

/-- A new value is put between the others, wherever its slot is, and the others keep their order. -/
theorem exists_values_insert (slots : Slots α) (value : α) :
    ∃ before after, slots.values = before ++ after ∧ (slots.insert value).values = before ++ value :: after := by
  by_cases inside : slots.next < slots.cells.size
  · obtain ⟨before, after, old, changed⟩ := exists_values_split inside
    refine ⟨before, after, by simpa [get?_next] using old, ?_⟩
    have grown := changed (some value)
    simpa [values, insert, putAt, inside] using grown
  · exact ⟨slots.values, [], by simp, by simp [values, insert, putAt, inside]⟩

theorem values_insert_full (full : slots.free = []) (value : α) :
    (slots.insert value).values = slots.values ++ [value] := by
  simp [values, insert, putAt, next, full]

theorem free_insert_full (full : slots.free = []) (value : α) : (slots.insert value).free = [] := by
  simp [insert, full]

theorem values_eq (slots : Slots α) : slots.values = (List.range slots.cells.size).filterMap slots.get? := by
  have cells : slots.cells.toList = (List.range slots.cells.size).map slots.get? := by
    apply List.ext_getElem (by simp)
    intro slot inside _
    have held : slots.cells[slot]? = some slots.cells[slot] := Array.getElem?_eq_getElem inside
    simp [get?, held]
  rw [values, cells, List.filterMap_map]
  rfl

/-- Where slots only lose values, the others keep their order. -/
theorem values_of_filter {after : Slots α} {kept : α → Bool} (size : after.cells.size = slots.cells.size)
    (left : ∀ slot, after.get? slot = (slots.get? slot).filter kept) : after.values = slots.values.filter kept := by
  rw [values_eq, values_eq, size, List.filter_filterMap, funext left]

/-- A slot for every value that is held. -/
def Single (slots : Slots α) : Prop :=
  ∀ first second value, slots.get? first = some value → slots.get? second = some value → first = second

theorem Single.values_nodup (single : slots.Single) : slots.values.Nodup := by
  rw [values, List.Nodup, List.pairwise_filterMap, List.pairwise_iff_getElem]
  intro first second firstInside secondInside before one atFirst two atSecond same
  subst same
  have get (slot : Nat) (inside : slot < slots.cells.toList.length) (held : slots.cells.toList[slot] = some one) :
      slots.get? slot = some one := by
    rw [get?, ← Array.getElem?_toList, List.getElem?_eq_getElem inside, held]
    rfl
  have := single first second one (get first firstInside atFirst) (get second secondInside atSecond)
  omega

theorem Single.values_release [DecidableEq α] (single : slots.Single) (held : slots.get? slot = some value) :
    (slots.release slot (by simp [held])).values = slots.values.filter (· ≠ value) := by
  apply values_of_filter
  · simp [release]
  · intro other
    rw [get?_release]
    by_cases here : slot = other
    · simp [← here, held, Option.filter_some]
    · cases elsewhere : slots.get? other with
      | none => simp
      | some another =>
          have different : another ≠ value := by
            intro same
            exact here (single slot other value held (same ▸ elsewhere))
          simp [here, different, Option.filter_some]

end Slots

end ClassMetrics
