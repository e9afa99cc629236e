import Mathlib.Data.List.Induction
import Mathlib.Data.List.Nodup

namespace ClassMetrics

variable {α : Type} [BEq α] [LawfulBEq α] {entries others : List α}

theorem eraseDups_concat (entries : List α) (entry : α) :
    (entries ++ [entry]).eraseDups =
      if entries.contains entry then entries.eraseDups else entries.eraseDups ++ [entry] := by
  rw [List.eraseDups_append]
  by_cases mentioned : entries.contains entry
  · have member : entry ∈ entries := by simpa using mentioned
    simp [List.removeAll, member]
  · have absent : entry ∉ entries := by simpa using mentioned
    simp [List.removeAll, List.eraseDups_cons, absent]

theorem pairwise_idxOf_eraseDups (entries : List α) :
    entries.eraseDups.Pairwise fun first second => entries.idxOf first < entries.idxOf second := by
  induction entries using List.reverseRecOn with
  | nil => exact .nil
  | append_singleton entries entry ih =>
      have earlier {held : α} (member : held ∈ entries.eraseDups) :
          (entries ++ [entry]).idxOf held = entries.idxOf held :=
        List.idxOf_append_of_mem (List.mem_eraseDups.mp member)
      have kept : entries.eraseDups.Pairwise fun first second =>
          (entries ++ [entry]).idxOf first < (entries ++ [entry]).idxOf second := by
        apply ih.imp_of_mem
        intro first second firstIn secondIn before
        rwa [earlier firstIn, earlier secondIn]
      rw [eraseDups_concat]
      split
      · exact kept
      · rename_i fresh
        have absent : entry ∉ entries := by simpa using fresh
        have last : ∀ held ∈ entries.eraseDups, ∀ added ∈ [entry],
            (entries ++ [entry]).idxOf held < (entries ++ [entry]).idxOf added := by
          intro held member added isEntry
          rw [List.mem_singleton.mp isEntry, earlier member, List.idxOf_append_of_notMem absent]
          have bound := List.idxOf_lt_length_of_mem (List.mem_eraseDups.mp member)
          omega
        exact List.pairwise_append.mpr ⟨kept, List.pairwise_singleton _ _, last⟩

theorem nodup_eraseDups (entries : List α) : entries.eraseDups.Nodup := by
  apply (pairwise_idxOf_eraseDups entries).imp
  intro first second before same
  rw [same] at before
  exact Nat.lt_irrefl _ before

theorem eraseDups_of_nodup (distinct : entries.Nodup) : entries.eraseDups = entries := by
  induction entries using List.reverseRecOn with
  | nil => rfl
  | append_singleton entries entry ih =>
      obtain ⟨earlier, _, apart⟩ := List.nodup_append.mp distinct
      have fresh : ¬ entries.contains entry = true := by
        simpa using fun member => apart entry member entry (List.mem_singleton_self entry) rfl
      rw [eraseDups_concat, if_neg fresh, ih earlier]

theorem eraseDups_map {β : Type} [BEq β] [LawfulBEq β] {image : α → β} (injective : Function.Injective image)
    (entries : List α) : (entries.map image).eraseDups = entries.eraseDups.map image := by
  induction entries using List.reverseRecOn with
  | nil => rfl
  | append_singleton entries entry ih =>
      have mentioned : (entries.map image).contains (image entry) = entries.contains entry := by
        rw [Bool.eq_iff_iff, List.contains_iff_mem, List.contains_iff_mem]
        exact List.mem_map_of_injective injective
      rw [List.map_append, List.map_singleton, eraseDups_concat, eraseDups_concat, mentioned, ih]
      split <;> simp

/-- What was mentioned before adds nothing. -/
theorem eraseDups_append_of_nodup (distinct : entries.Nodup) (known : ∀ entry ∈ others, entry ∈ entries) :
    (entries ++ others).eraseDups = entries := by
  have nothingNew : others.removeAll entries = [] := by
    simpa [List.removeAll] using known
  rw [List.eraseDups_append, nothingNew, eraseDups_of_nodup distinct, List.eraseDups_nil, List.append_nil]

theorem eraseDups_perm (reordered : entries.Perm others) :
    entries.eraseDups.Perm others.eraseDups := by
  apply (List.perm_ext_iff_of_nodup (nodup_eraseDups _) (nodup_eraseDups _)).mpr
  intro entry
  rw [List.mem_eraseDups, List.mem_eraseDups, reordered.mem_iff]

end ClassMetrics
