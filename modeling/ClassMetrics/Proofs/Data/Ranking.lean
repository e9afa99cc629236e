import Mathlib.Data.List.Nodup

namespace ClassMetrics

variable {α : Type} (score : α → Nat) (name : α → String)

def ranks (first second : α) : Bool :=
  score second < score first || (score first == score second && name first ≤ name second)

variable {score name} {first second third : α} {entries others : List α}

theorem ranks_iff :
    ranks score name first second = true ↔
      score second < score first ∨ score first = score second ∧ name first ≤ name second := by
  simp [ranks]

theorem ranks_trans (one : ranks score name first second = true)
    (two : ranks score name second third = true) : ranks score name first third = true := by
  rw [ranks_iff] at *
  rcases one with higher | ⟨level, named⟩ <;> rcases two with next | ⟨same, after⟩
  · exact .inl (by omega)
  · exact .inl (by omega)
  · exact .inl (by omega)
  · exact .inr ⟨level.trans same, String.le_trans named after⟩

theorem ranks_total (first second : α) :
    (ranks score name first second || ranks score name second first) = true := by
  rw [Bool.or_eq_true, ranks_iff, ranks_iff]
  rcases Nat.lt_trichotomy (score first) (score second) with lower | same | higher
  · exact .inr (.inl lower)
  · rcases String.le_total (name first) (name second) with before | after
    · exact .inl (.inr ⟨same, before⟩)
    · exact .inr (.inr ⟨same.symm, after⟩)
  · exact .inl (.inl higher)

theorem name_eq_of_ranks (one : ranks score name first second = true)
    (two : ranks score name second first = true) : name first = name second := by
  rw [ranks_iff] at one two
  rcases one with higher | ⟨level, before⟩
  · rcases two with lower | ⟨level, _⟩ <;> omega
  · rcases two with lower | ⟨_, after⟩
    · omega
    · exact String.le_antisymm before after

theorem mergeSort_ranks_eq (reordered : entries.Perm others) (distinct : (entries.map name).Nodup) :
    entries.mergeSort (ranks score name) = others.mergeSort (ranks score name) := by
  have sorted (entries : List α) : (entries.mergeSort (ranks score name)).Pairwise
      fun first second => ranks score name first second = true :=
    List.pairwise_mergeSort (fun _ _ _ => ranks_trans) ranks_total entries
  have same : (entries.mergeSort (ranks score name)).Perm (others.mergeSort (ranks score name)) :=
    (List.mergeSort_perm entries _).trans (reordered.trans (List.mergeSort_perm others _).symm)
  apply same.eq_of_pairwise _ (sorted _) (sorted _)
  intro first second firstIn secondIn one two
  have firstGiven : first ∈ entries := (List.mergeSort_perm entries _).mem_iff.mp firstIn
  have secondGiven : second ∈ entries :=
    reordered.mem_iff.mpr ((List.mergeSort_perm others _).mem_iff.mp secondIn)
  exact List.inj_on_of_nodup_map distinct firstGiven secondGiven (name_eq_of_ranks one two)

/-- The highest score, and of those who have it the first in the order of names. -/
structure Foremost (score : α → Nat) (name : α → String) (entries : List α) (leader : α) : Prop where
  member : leader ∈ entries
  highest : ∀ entry ∈ entries, score entry ≤ score leader
  first : ∀ entry ∈ entries, score entry = score leader → name leader ≤ name entry

theorem foremost_of_ranks {leader : α} (member : leader ∈ entries)
    (ahead : ∀ entry ∈ entries, ranks score name leader entry = true) : Foremost score name entries leader where
  member := member
  highest entry entryIn := by
    rcases ranks_iff.mp (ahead entry entryIn) with higher | ⟨level, _⟩
    · exact Nat.le_of_lt higher
    · exact Nat.le_of_eq level.symm
  first entry entryIn same := by
    rcases ranks_iff.mp (ahead entry entryIn) with higher | ⟨_, before⟩
    · omega
    · exact before

theorem foremost_head?_mergeSort {leader : α}
    (head : (entries.mergeSort (ranks score name)).head? = some leader) : Foremost score name entries leader := by
  obtain ⟨rest, sorted⟩ := List.head?_eq_some_iff.mp head
  have given : (leader :: rest).Perm entries := sorted ▸ List.mergeSort_perm entries (ranks score name)
  have inOrder : (leader :: rest).Pairwise fun first second => ranks score name first second = true :=
    sorted ▸ List.pairwise_mergeSort (fun _ _ _ => ranks_trans) ranks_total entries
  apply foremost_of_ranks (given.mem_iff.mp List.mem_cons_self)
  intro entry entryIn
  rcases List.mem_cons.mp (given.mem_iff.mpr entryIn) with rfl | later
  · exact ranks_iff.mpr (.inr ⟨rfl, String.le_refl _⟩)
  · exact (List.pairwise_cons.mp inOrder).1 entry later

end ClassMetrics
