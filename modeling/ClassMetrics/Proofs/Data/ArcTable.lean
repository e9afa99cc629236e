import ClassMetrics.Data.ArcTable
import Mathlib.Data.List.Nodup

namespace ClassMetrics.ArcTable

variable {table : ArcTable} {side : End} {vertex arc : Nat} {ends : Ends Nat}

theorem mem_arcsAt : arc ∈ table.arcsAt side vertex ↔ ∃ ends, table.ends? arc = some ends ∧ ends.get side = vertex := by
  rw [arcsAt, table.mem_edgesAt, Option.map_eq_some_iff]
  rfl

theorem arcsAt_nodup (table : ArcTable) (side : End) (vertex : Nat) : (table.arcsAt side vertex).Nodup :=
  (table.listed.chain side vertex).nodup

theorem slots_cover (table : ArcTable) (vertex : Nat) : (table.cover vertex).slots = table.slots := by
  unfold cover
  split <;> rfl

theorem arcsAt_cover (table : ArcTable) (other : Nat) :
    (table.cover other).arcsAt side vertex = table.arcsAt side vertex := by
  unfold cover
  split
  · rfl
  · exact table.listed.addVertex.edgesAt_eq side vertex

section Add

variable (inside : ∀ side, ends.get side < table.vertexCount)

theorem ends?_add (arc : Nat) :
    (table.add ends inside).ends? arc = if table.slots.next = arc then some ends else table.ends? arc :=
  table.slots.get?_insert ends arc

theorem arcsAt_add (side : End) (vertex : Nat) :
    (table.add ends inside).arcsAt side vertex =
      if ends.get side = vertex then table.slots.next :: table.arcsAt side vertex else table.arcsAt side vertex :=
  (table.link ends inside).edgesAt_eq side vertex

end Add

section Remove

theorem ends?_remove (table : ArcTable) (arc other : Nat) :
    (table.remove arc).ends? other = if arc = other then none else table.ends? other := by
  unfold remove
  split
  · rename_i absent
    by_cases here : arc = other
    · rw [if_pos here, ← here]
      exact absent
    · rw [if_neg here]
  · rename_i ends found
    exact Slots.get?_release (by simp [found]) other

theorem arcsAt_remove (table : ArcTable) (arc : Nat) (side : End) (vertex : Nat) :
    (table.remove arc).arcsAt side vertex = (table.arcsAt side vertex).filter (· != arc) := by
  rw [← (table.arcsAt_nodup side vertex).erase_eq_filter]
  unfold remove
  split
  · rename_i absent
    refine (List.erase_of_not_mem fun member => ?_).symm
    obtain ⟨ends, held, _⟩ := mem_arcsAt.mp member
    cases absent.symm.trans held
  · rename_i ends found
    exact (unlink found).edgesAt_eq side vertex

theorem size_remove (table : ArcTable) (arc : Nat) : (table.remove arc).slots.cells.size = table.slots.cells.size := by
  unfold remove
  split
  · rfl
  · simp [Slots.release]

theorem ends?_foldl_remove (table : ArcTable) (arcs : List Nat) (other : Nat) :
    (arcs.foldl remove table).ends? other = if other ∈ arcs then none else table.ends? other := by
  induction arcs generalizing table with
  | nil => rfl
  | cons arc rest ih =>
      rw [List.foldl_cons, ih, ends?_remove]
      by_cases here : arc = other
      · simp [here]
      · simp [here, Ne.symm here]

theorem arcsAt_foldl_remove (table : ArcTable) (arcs : List Nat) (side : End) (vertex : Nat) :
    (arcs.foldl remove table).arcsAt side vertex = (table.arcsAt side vertex).filter (· ∉ arcs) := by
  induction arcs generalizing table with
  | nil => simp
  | cons arc rest ih =>
      rw [List.foldl_cons, ih, arcsAt_remove, List.filter_filter]
      congr 1
      funext held
      by_cases here : held = arc <;> simp [here]

theorem size_foldl_remove (table : ArcTable) (arcs : List Nat) :
    (arcs.foldl remove table).slots.cells.size = table.slots.cells.size := by
  induction arcs generalizing table with
  | nil => rfl
  | cons arc rest ih => rw [List.foldl_cons, ih, size_remove]

theorem ends?_strip (table : ArcTable) (side : End) (vertex arc : Nat) :
    (table.strip side vertex).ends? arc = (table.ends? arc).filter (·.get side ≠ vertex) := by
  rw [strip, ends?_foldl_remove]
  simp only [mem_arcsAt]
  cases table.ends? arc with
  | none => simp
  | some ends => by_cases here : ends.get side = vertex <;> simp [here, Option.filter_some]

theorem arcsAt_strip (table : ArcTable) (stripped : End) (vertex : Nat) (side : End) (other : Nat) :
    (table.strip stripped vertex).arcsAt side other =
      (table.arcsAt side other).filter fun arc => (table.ends? arc).any (·.get stripped ≠ vertex) := by
  rw [strip, arcsAt_foldl_remove]
  apply List.filter_congr
  intro arc member
  obtain ⟨ends, held, _⟩ := mem_arcsAt.mp member
  simp [mem_arcsAt, held]

/-- Whether an arc has a vertex at neither end. -/
def avoids (vertex : Nat) (ends : Ends Nat) : Bool :=
  ends.source ≠ vertex && ends.target ≠ vertex

theorem avoids_iff (side : End) :
    avoids vertex ends = true ↔ ends.get side ≠ vertex ∧ ends.get side.other ≠ vertex := by
  cases side with
  | source => simp [avoids, Ends.get, End.other]
  | target => simp [avoids, Ends.get, End.other, and_comm]

theorem ends?_clear (table : ArcTable) (vertex arc : Nat) :
    (table.clear vertex).ends? arc = (table.ends? arc).filter (avoids vertex) := by
  rw [clear, ends?_strip, ends?_strip, Option.filter_filter]
  rfl

theorem values_clear (table : ArcTable) (vertex : Nat) :
    (table.clear vertex).slots.values = table.slots.values.filter (avoids vertex) := by
  apply Slots.values_of_filter
  · rw [clear, strip, size_foldl_remove, strip, size_foldl_remove]
  · exact table.ends?_clear vertex

theorem arcsAt_clear (table : ArcTable) (vertex : Nat) (side : End) (other : Nat) :
    (table.clear vertex).arcsAt side other =
      (table.arcsAt side other).filter fun arc => (table.ends? arc).any (avoids vertex) := by
  rw [clear, arcsAt_strip, arcsAt_strip, List.filter_filter]
  apply List.filter_congr
  intro arc _
  rw [ends?_strip]
  cases table.ends? arc with
  | none => rfl
  | some ends =>
      by_cases leaves : ends.source = vertex
      · simp [leaves, Option.filter_some, Ends.get, avoids]
      · by_cases reaches : ends.target = vertex <;> simp [leaves, reaches, Option.filter_some, Ends.get, avoids]

end Remove

end ClassMetrics.ArcTable
