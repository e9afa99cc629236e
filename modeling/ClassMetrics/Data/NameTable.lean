import ClassMetrics.Data.Lists
import ClassMetrics.Data.Slots

namespace ClassMetrics

/-- Names in slots, and the slot of every name. -/
structure NameTable where
  slots : Slots String
  numbers : List (String × Nat)
  numbered : ∀ name slot, Keyed.get? name numbers = some slot ↔ slots.get? slot = some name
deriving Repr, DecidableEq

namespace NameTable

def empty : NameTable where
  slots := .empty
  numbers := []
  numbered _ _ := by simp [Keyed.get?, Slots.get?, Slots.empty]

section Operations

variable (table : NameTable)

def slot? (name : String) : Option Nat :=
  Keyed.get? name table.numbers

def name? (slot : Nat) : Option String :=
  table.slots.get? slot

/-- The names by their slots. -/
def names : List String := table.slots.values

/-- How many slots there are, free ones among them. -/
def size : Nat := table.slots.cells.size

def add (name : String) (fresh : table.slot? name = none) : NameTable where
  slots := table.slots.insert name
  numbers := Keyed.insert name table.slots.next table.numbers
  numbered other slot := by
    have known := table.numbered other slot
    rw [Keyed.get?_insert, Slots.get?_insert]
    by_cases here : table.slots.next = slot
    · subst here
      rw [table.slots.get?_next] at known
      by_cases same : name = other
      · simp [same]
      · simpa [same] using known
    · by_cases same : name = other
      · subst same
        have unknown : table.slots.get? slot ≠ some name := by
          rw [Ne, ← known]
          intro found
          cases fresh.symm.trans found
        simp [here, unknown]
      · simpa [here, same] using known

variable {table} in
theorem name?_of_slot? {name : String} {slot : Nat} (found : table.slot? name = some slot) :
    table.slots.get? slot = some name :=
  (table.numbered name slot).mp found

def remove (name : String) (slot : Nat) (found : table.slot? name = some slot) : NameTable where
  slots := table.slots.release slot (by simp [name?_of_slot? found])
  numbers := Keyed.erase name table.numbers
  numbered other place := by
    have known := table.numbered other place
    rw [Keyed.get?_erase, Slots.get?_release]
    by_cases same : name = other
    · subst same
      have only (elsewhere : slot ≠ place) : table.slots.get? place ≠ some name := by
        rw [Ne, ← known]
        intro again
        exact elsewhere (Option.some.inj (found.symm.trans again))
      by_cases here : slot = place
      · simp [here]
      · simp [here, only here]
    · by_cases here : slot = place
      · subst here
        rw [name?_of_slot? found] at known
        simpa [same] using known
      · simpa [same, here] using known

end Operations

variable {table : NameTable} {name : String} {slot : Nat}

theorem slot?_eq_some_iff : table.slot? name = some slot ↔ table.name? slot = some name :=
  table.numbered name slot

theorem name_eq_of_slot? {other : String} (found : table.slot? name = some slot)
    (foundToo : table.slot? other = some slot) : name = other :=
  Option.some.inj ((name?_of_slot? found).symm.trans (name?_of_slot? foundToo))

theorem single (table : NameTable) : table.slots.Single := by
  intro first second name atFirst atSecond
  have one := (table.numbered name first).mpr atFirst
  have two := (table.numbered name second).mpr atSecond
  exact Option.some.inj (one.symm.trans two)

theorem mem_names : name ∈ table.names ↔ (table.slot? name).isSome := by
  rw [names, Slots.mem_values, Option.isSome_iff_exists]
  exact exists_congr fun slot => slot?_eq_some_iff.symm

theorem names_remove (found : table.slot? name = some slot) :
    (table.remove name slot found).names = table.names.filter (· ≠ name) :=
  table.single.values_release (name?_of_slot? found)

theorem slot_lt_size (found : table.slot? name = some slot) : slot < table.size :=
  Slots.lt_size_of_get? (name?_of_slot? found)

theorem size_add (fresh : table.slot? name = none) :
    (table.add name fresh).size = max table.size (table.slots.next + 1) :=
  size_putAt table.slots.next_le _

theorem size_remove (found : table.slot? name = some slot) : (table.remove name slot found).size = table.size := by
  simp [size, remove, Slots.release]

end NameTable

end ClassMetrics
