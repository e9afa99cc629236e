import ClassMetrics.Data.Lists
import Mathlib.Data.List.Nodup
import Mathlib.Data.Nat.Choose.Basic
import Mathlib.Data.Prod.Lex
import Mathlib.Data.Sym.Sym2

namespace ClassMetrics

variable {α : Type} {entries others : List α}

theorem mem_pairs_iff {first second : α} :
    (first, second) ∈ pairs entries ↔
      ∃ i j : Nat, i < j ∧ entries[i]? = some first ∧ entries[j]? = some second := by
  induction entries with
  | nil => simp [pairs]
  | cons entry rest ih =>
      simp only [pairs, List.mem_append, List.mem_map, Prod.mk.injEq, ih]
      constructor
      · intro listed
        rcases listed with ⟨held, member, rfl, rfl⟩ | ⟨i, j, before, atFirst, atSecond⟩
        · obtain ⟨j, atSecond⟩ := List.mem_iff_getElem?.mp member
          exact ⟨0, j + 1, Nat.succ_pos j, rfl, by simpa using atSecond⟩
        · exact ⟨i + 1, j + 1, by omega, by simpa using atFirst, by simpa using atSecond⟩
      · intro placed
        obtain ⟨i, j, before, atFirst, atSecond⟩ := placed
        obtain ⟨j, rfl⟩ : ∃ previous, j = previous + 1 := ⟨j - 1, by omega⟩
        rw [List.getElem?_cons_succ] at atSecond
        cases i with
        | zero =>
            have same : entry = first := by simpa using atFirst
            exact .inl ⟨second, List.mem_of_getElem? atSecond, same, rfl⟩
        | succ i =>
            rw [List.getElem?_cons_succ] at atFirst
            exact .inr ⟨i, j, by omega, atFirst, atSecond⟩

theorem mem_of_mem_pairs {pair : α × α} (member : pair ∈ pairs entries) :
    pair.1 ∈ entries ∧ pair.2 ∈ entries := by
  obtain ⟨_, _, _, atFirst, atSecond⟩ := mem_pairs_iff.mp member
  exact ⟨List.mem_of_getElem? atFirst, List.mem_of_getElem? atSecond⟩

theorem mem_pairs_or_mem_pairs {first second : α} (firstIn : first ∈ entries)
    (secondIn : second ∈ entries) (different : first ≠ second) :
    (first, second) ∈ pairs entries ∨ (second, first) ∈ pairs entries := by
  obtain ⟨i, atFirst⟩ := List.mem_iff_getElem?.mp firstIn
  obtain ⟨j, atSecond⟩ := List.mem_iff_getElem?.mp secondIn
  have apart : i ≠ j := by
    intro same
    rw [same, atSecond] at atFirst
    exact different (Option.some.inj atFirst).symm
  rcases Nat.lt_or_gt_of_ne apart with before | after
  · exact .inl (mem_pairs_iff.mpr ⟨i, j, before, atFirst, atSecond⟩)
  · exact .inr (mem_pairs_iff.mpr ⟨j, i, after, atSecond, atFirst⟩)

theorem length_pairs (entries : List α) :
    (pairs entries).length = entries.length * (entries.length - 1) / 2 := by
  rw [← Nat.choose_two_right]
  induction entries with
  | nil => rfl
  | cons entry rest ih =>
      rw [pairs, List.length_append, List.length_map, ih, List.length_cons, Nat.choose_succ_succ',
        Nat.choose_one_right]

section Order

variable [DecidableEq α]

/-- The positions of a pair of entries. -/
def positions (entries : List α) (pair : α × α) : Nat ×ₗ Nat :=
  toLex (entries.idxOf pair.1, entries.idxOf pair.2)

theorem pairwise_idxOf (distinct : entries.Nodup) :
    entries.Pairwise fun first second => entries.idxOf first < entries.idxOf second := by
  apply List.pairwise_iff_getElem.mpr
  intro i j iBound jBound before
  rwa [distinct.idxOf_getElem, distinct.idxOf_getElem]

theorem pairwise_positions_pairs (distinct : entries.Nodup) :
    (pairs entries).Pairwise fun first second => positions entries first < positions entries second := by
  induction entries with
  | nil => exact .nil
  | cons entry rest ih =>
      obtain ⟨absent, restDistinct⟩ := List.nodup_cons.mp distinct
      have later {held : α} (member : held ∈ rest) : (entry :: rest).idxOf held = rest.idxOf held + 1 :=
        List.idxOf_cons_ne _ fun same => absent (same ▸ member)
      have first : (entry :: rest).idxOf entry = 0 := List.idxOf_cons_self
      refine List.pairwise_append.mpr ⟨?_, ?_, ?_⟩
      · apply List.pairwise_map.mpr ((pairwise_idxOf restDistinct).imp_of_mem _)
        intro second third secondIn thirdIn before
        simp [positions, Prod.Lex.toLex_lt_toLex, later secondIn, later thirdIn, before]
      · apply (ih restDistinct).imp_of_mem
        intro one other oneIn otherIn before
        obtain ⟨oneFirst, oneSecond⟩ := mem_of_mem_pairs oneIn
        obtain ⟨otherFirst, otherSecond⟩ := mem_of_mem_pairs otherIn
        simp only [positions, Prod.Lex.toLex_lt_toLex] at before ⊢
        rw [later oneFirst, later oneSecond, later otherFirst, later otherSecond]
        omega
      · intro one ofEntry other ofRest
        obtain ⟨held, _, rfl⟩ := List.mem_map.mp ofEntry
        have otherFirst := (mem_of_mem_pairs ofRest).1
        simp only [positions, Prod.Lex.toLex_lt_toLex, first, later otherFirst]
        omega

theorem idxOf_lt_of_mem_pairs (distinct : entries.Nodup) {pair : α × α} (member : pair ∈ pairs entries) :
    entries.idxOf pair.1 < entries.idxOf pair.2 := by
  obtain ⟨i, j, before, atFirst, atSecond⟩ := mem_pairs_iff.mp member
  obtain ⟨_, isFirst⟩ := List.getElem?_eq_some_iff.mp atFirst
  obtain ⟨_, isSecond⟩ := List.getElem?_eq_some_iff.mp atSecond
  rwa [← isFirst, ← isSecond, distinct.idxOf_getElem, distinct.idxOf_getElem]

end Order

section Unordered

def unordered (pair : α × α) : Sym2 α :=
  s(pair.1, pair.2)

theorem unordered_pairs_perm (reordered : entries.Perm others) :
    ((pairs entries).map unordered).Perm ((pairs others).map unordered) := by
  induction reordered with
  | nil => exact .refl _
  | @cons entry entries others reordered ih =>
      simp only [pairs, List.map_append, List.map_map]
      exact (reordered.map _).append ih
  | swap first second rest =>
      simp only [pairs, List.map_cons, List.map_append, List.map_map, List.cons_append]
      rw [show unordered (second, first) = unordered (first, second) from Sym2.eq_swap]
      exact .cons _ (List.perm_append_comm_assoc _ _ _)
  | trans _ _ first second => exact first.trans second

theorem nodup_unordered_pairs (distinct : entries.Nodup) : ((pairs entries).map unordered).Nodup := by
  induction entries with
  | nil => exact .nil
  | cons entry rest ih =>
      obtain ⟨absent, restDistinct⟩ := List.nodup_cons.mp distinct
      simp only [pairs, List.map_append, List.map_map]
      refine List.Nodup.append (restDistinct.map ?_) (ih restDistinct) ?_
      · intro first second same
        exact Sym2.congr_right.mp same
      · intro joined ofEntry ofRest
        obtain ⟨second, _, rfl⟩ := List.mem_map.mp ofEntry
        obtain ⟨pair, member, same⟩ := List.mem_map.mp ofRest
        obtain ⟨firstIn, secondIn⟩ := mem_of_mem_pairs member
        have held : entry ∈ unordered pair := by
          rw [same]
          exact Sym2.mem_mk_left entry second
        rcases Sym2.mem_iff.mp held with isFirst | isSecond
        · exact absent (isFirst ▸ firstIn)
        · exact absent (isSecond ▸ secondIn)

theorem mem_unordered_pairs {first second : α} (firstIn : first ∈ entries) (secondIn : second ∈ entries)
    (different : first ≠ second) : s(first, second) ∈ (pairs entries).map unordered := by
  rcases mem_pairs_or_mem_pairs firstIn secondIn different with forth | back
  · exact List.mem_map.mpr ⟨_, forth, rfl⟩
  · exact List.mem_map.mpr ⟨_, back, Sym2.eq_swap⟩

/-- Every two entries once, whichever of them is named first, and the pairs of an earlier entry first. -/
structure ListsPairs [DecidableEq α] (entries : List α) (listed : List (α × α)) : Prop where
  forward : ∀ pair ∈ listed, pair.1 ∈ entries ∧ pair.2 ∈ entries ∧ entries.idxOf pair.1 < entries.idxOf pair.2
  once : ∀ first ∈ entries, ∀ second ∈ entries, first ≠ second →
    (listed.map unordered).count s(first, second) = 1
  inOrder : listed.Pairwise fun one other => positions entries one < positions entries other
  length : listed.length = entries.length * (entries.length - 1) / 2

theorem listsPairs_pairs [DecidableEq α] (distinct : entries.Nodup) : ListsPairs entries (pairs entries) where
  forward _ member :=
    ⟨(mem_of_mem_pairs member).1, (mem_of_mem_pairs member).2, idxOf_lt_of_mem_pairs distinct member⟩
  once _ firstIn _ secondIn different :=
    List.count_eq_one_of_mem (nodup_unordered_pairs distinct) (mem_unordered_pairs firstIn secondIn different)
  inOrder := pairwise_positions_pairs distinct
  length := length_pairs entries

end Unordered

end ClassMetrics
