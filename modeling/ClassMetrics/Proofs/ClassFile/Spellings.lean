import ClassMetrics.Proofs.ClassFile.Keys

namespace ClassMetrics

/-!
Which spellings share a class key. A class is spelled by its name and by the descriptors of the class and of its
arrays, and all of them have one key. Of two names with one key each can be had from the other by exchanging `$`
and `_`, so the key tells apart all names but those.
-/

/-- The descriptor of a class, or of arrays of it with `depth` dimensions. -/
def Descriptor.ofClass (depth : Nat) (name : String) : String :=
  String.ofList (List.replicate depth '[' ++ 'L' :: (name.toList ++ [';']))

/-- The nested-class mark and what a key has in its place. -/
def IsJoint (mark : Char) : Prop :=
  mark = '$' ∨ mark = '_'

/-- Names that are the same but for their joints. -/
structure SameButJoints (first second : List Char) : Prop where
  length : first.length = second.length
  marks : ∀ (position : Nat) (mark other : Char), first[position]? = some mark → second[position]? = some other →
    mark = other ∨ IsJoint mark ∧ IsJoint other

section Collapsing

variable {first second : List Char}

theorem collapse_eq_iff {mark other : Char} :
    (if mark = '$' then '_' else mark) = (if other = '$' then '_' else other) ↔
      mark = other ∨ IsJoint mark ∧ IsJoint other := by
  unfold IsJoint
  by_cases marked : mark = '$'
  · by_cases otherMarked : other = '$'
    · simp [marked, otherMarked]
    · simp [marked, otherMarked, eq_comm]
  · by_cases otherMarked : other = '$'
    · simp [marked, otherMarked]
    · -- Two marks that are both no `$` are joints only as the same `_`.
      simp only [marked, otherMarked, if_false, false_or, iff_self_or]
      intro joints
      exact joints.1.trans joints.2.symm

theorem collapseNested_eq_iff : collapseNested first = collapseNested second ↔ SameButJoints first second := by
  constructor
  · intro same
    have length : first.length = second.length := by
      simpa [collapseNested] using congrArg List.length same
    refine ⟨length, fun position mark other atFirst atSecond => collapse_eq_iff.mp ?_⟩
    simpa [collapseNested, atFirst, atSecond] using congrArg (·[position]?) same
  · intro agree
    apply List.ext_getElem (by simpa [collapseNested] using agree.length)
    intro position inFirst inSecond
    simp only [collapseNested, List.getElem_map]
    exact collapse_eq_iff.mpr (agree.marks position _ _ (List.getElem?_eq_getElem _) (List.getElem?_eq_getElem _))

theorem no_mark_collapseNested (name : List Char) : '$' ∉ collapseNested name := by
  intro member
  obtain ⟨mark, _, collapsed⟩ := List.mem_map.mp member
  split at collapsed
  · cases collapsed
  · rename_i unmarked
    exact unmarked collapsed

end Collapsing

namespace InternalName

theorem keyChars_ofClass (depth : Nat) (name : List Char) :
    Descriptor.keyChars (List.replicate depth '[' ++ 'L' :: (name ++ [';'])) = collapseNested name := by
  have closed : withoutTerminator (name ++ [';']) = name := by simp [withoutTerminator]
  rw [Descriptor.keyChars, dropWhile_marks (by simp)]
  exact congrArg collapseNested closed

theorem classKey_descriptor {name : String} (bare : name.toList.head? ≠ some '[') (depth : Nat) :
    Descriptor.classKey (Descriptor.ofClass depth name) = classKey name := by
  rw [classKey_of_bare bare, Descriptor.classKey, Descriptor.ofClass, String.toList_ofList, keyChars_ofClass]

theorem classKey_array {name : String} (bare : name.toList.head? ≠ some '[') {depth : Nat} (array : 0 < depth) :
    classKey (Descriptor.ofClass depth name) = classKey name := by
  have marked : (Descriptor.ofClass depth name).toList.head? = some '[' := by
    obtain ⟨deeper, rfl⟩ := Nat.exists_eq_add_of_lt array
    simp [Descriptor.ofClass, List.replicate_succ]
  rw [classKey_of_marked marked, classKey_descriptor bare]

theorem classKey_letter {letter : Char} (noClass : letter ≠ 'L') (noArray : letter ≠ '[') (depth : Nat) :
    Descriptor.classKey (String.ofList (List.replicate depth '[' ++ [letter])) = "" := by
  rw [Descriptor.classKey, String.toList_ofList,
    (keyChars_marks_eq_nil_iff (by simpa using noArray) depth).mpr (by simp [noClass])]

theorem no_mark_keyChars (descriptor : List Char) : '$' ∉ Descriptor.keyChars descriptor := by
  unfold Descriptor.keyChars
  split
  · exact no_mark_collapseNested _
  · simp

theorem no_mark_descriptorKey (descriptor : String) : '$' ∉ (Descriptor.classKey descriptor).toList := by
  rw [Descriptor.classKey, String.toList_ofList]
  exact no_mark_keyChars _

theorem no_mark_classKey (name : String) : '$' ∉ (classKey name).toList := by
  unfold classKey
  split
  · exact no_mark_descriptorKey name
  · rw [String.toList_ofList]
    exact no_mark_collapseNested _

/-- All spellings of a class have one key, types that are no classes have none, and two names share a key exactly if
they are the same but for their joints. -/
theorem keys_meet_and_part :
    (∀ name : String, name.toList.head? ≠ some '[' → ∀ depth,
      Descriptor.classKey (Descriptor.ofClass depth name) = classKey name ∧
        (0 < depth → classKey (Descriptor.ofClass depth name) = classKey name)) ∧
    (∀ letter, Descriptor.isPrimitive letter = true ∨ letter = 'V' → ∀ depth,
      Descriptor.classKey (String.ofList (List.replicate depth '[' ++ [letter])) = "") ∧
    (∀ text, '$' ∉ (Descriptor.classKey text).toList ∧ '$' ∉ (classKey text).toList) ∧
    ∀ first second : String, first.toList.head? ≠ some '[' → second.toList.head? ≠ some '[' →
      (classKey first = classKey second ↔ SameButJoints first.toList second.toList) := by
  refine ⟨fun name bare depth => ⟨classKey_descriptor bare depth, classKey_array bare⟩, ?_,
    fun text => ⟨no_mark_descriptorKey text, no_mark_classKey text⟩, ?_⟩
  · intro letter known depth
    have noClass : letter ≠ 'L' := by
      intro same
      simp [same, Descriptor.isPrimitive] at known
    have noArray : letter ≠ '[' := by
      intro same
      simp [same, Descriptor.isPrimitive] at known
    exact classKey_letter noClass noArray depth
  · intro first second firstBare secondBare
    rw [classKey_of_bare firstBare, classKey_of_bare secondBare, String.ofList_inj, collapseNested_eq_iff]

theorem oddNames_meet_and_part :
    classKey "Lé;[$;" = "Lé;[_;" ∧
      Descriptor.classKey (Descriptor.ofClass 2 "Lé;[$;") = classKey "Lé;[$;" ∧
      classKey (Descriptor.ofClass 2 "Lé;[$;") = classKey "Lé;[$;" ∧
      Descriptor.classKey "[[V" = "" ∧
      (classKey "p/A$B_C" = classKey "p/A_B$C" ↔ SameButJoints "p/A$B_C".toList "p/A_B$C".toList) := by
  obtain ⟨meet, letters, _, part⟩ := keys_meet_and_part
  have odd := meet "Lé;[$;" (by decide) 2
  exact ⟨by decide, odd.1, odd.2 (by decide), letters 'V' (.inr rfl) 2, part _ _ (by decide) (by decide)⟩

end InternalName

end ClassMetrics
