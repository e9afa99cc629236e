import ClassMetrics.ClassFile.Descriptor
import Mathlib.Data.List.Basic

namespace ClassMetrics

namespace InternalName

/-- Array marks, and behind the last of them no class: the class mark is missing, or names nothing. -/
def ArrayOfNoClass (name : String) : Prop :=
  ∃ depth element, name.toList = List.replicate (depth + 1) '[' ++ element ∧ element.head? ≠ some '[' ∧
    (element.head? = some 'L' → element = ['L'] ∨ element = ['L', ';'])

theorem dropWhile_marks {element : List Char} (bare : element.head? ≠ some '[') (depth : Nat) :
    (List.replicate depth '[' ++ element).dropWhile (· == '[') = element := by
  induction depth with
  | zero =>
      cases element with
      | nil => rfl
      | cons mark rest =>
          have other : mark ≠ '[' := by simpa using bare
          simp [other]
  | succ depth ih => simpa [List.replicate_succ] using ih

theorem exists_marks (name : List Char) :
    ∃ depth element, name = List.replicate depth '[' ++ element ∧ element.head? ≠ some '[' := by
  induction name with
  | nil => exact ⟨0, [], rfl, by simp⟩
  | cons mark rest ih =>
      by_cases marked : mark = '['
      · obtain ⟨depth, element, rfl, bare⟩ := ih
        exact ⟨depth + 1, element, by rw [marked, List.replicate_succ, List.cons_append], bare⟩
      · exact ⟨0, mark :: rest, rfl, by simpa using marked⟩

theorem withoutTerminator_eq_nil_iff {object : List Char} :
    withoutTerminator object = [] ↔ object = [] ∨ object = [';'] := by
  unfold withoutTerminator
  split
  · rename_i closed
    obtain ⟨start, rfl⟩ := List.getLast?_eq_some_iff.mp closed
    simp
  · rename_i unclosed
    constructor
    · exact .inl
    · intro either
      rcases either with rfl | rfl
      · rfl
      · exact absurd rfl unclosed

theorem keyChars_marks_eq_nil_iff {element : List Char} (bare : element.head? ≠ some '[') (depth : Nat) :
    Descriptor.keyChars (List.replicate depth '[' ++ element) = [] ↔
      (element.head? = some 'L' → element = ['L'] ∨ element = ['L', ';']) := by
  rw [Descriptor.keyChars, dropWhile_marks bare]
  split
  · rename_i object
    rw [collapseNested, List.map_eq_nil_iff, withoutTerminator_eq_nil_iff]
    simp
  · rename_i noClass
    have unmarked : element.head? ≠ some 'L' := by
      intro marked
      obtain ⟨object, rfl⟩ := List.head?_eq_some_iff.mp marked
      exact noClass object rfl
    simp [unmarked]

theorem classKey_of_bare {name : String} (bare : name.toList.head? ≠ some '[') :
    classKey name = String.ofList (collapseNested name.toList) := by
  unfold classKey
  split
  · rename_i rest marked
    rw [marked] at bare
    exact absurd rfl bare
  · rfl

theorem classKey_of_marked {name : String} (marked : name.toList.head? = some '[') :
    classKey name = Descriptor.classKey name := by
  obtain ⟨rest, marks⟩ := List.head?_eq_some_iff.mp marked
  unfold classKey
  split
  · rfl
  · rename_i unmarked
    exact absurd marks (unmarked rest)

theorem classKey_eq_empty_iff {name : String} : classKey name = "" ↔ name = "" ∨ ArrayOfNoClass name := by
  obtain ⟨depth, element, parts, bare⟩ := exists_marks name.toList
  have empty_iff : name = "" ↔ name.toList = [] := by simp
  cases depth with
  | zero =>
      -- Without an array mark the key has as many characters as the name.
      have whole : name.toList = element := parts
      have noArray : ¬ ArrayOfNoClass name := by
        rintro ⟨deeper, other, again, _⟩
        rw [whole] at again
        rw [again, List.replicate_succ] at bare
        exact absurd rfl bare
      rw [classKey_of_bare (by rwa [whole]), empty_iff]
      simp [collapseNested, noArray]
  | succ depth =>
      have marked : name.toList.head? = some '[' := by simp [parts, List.replicate_succ]
      have unique : ArrayOfNoClass name ↔ (element.head? = some 'L' → element = ['L'] ∨ element = ['L', ';']) := by
        constructor
        · rintro ⟨deeper, other, again, otherBare, noClass⟩
          have same : element = other := by
            rw [← dropWhile_marks bare (depth + 1), ← parts, again, dropWhile_marks otherBare]
          rwa [same]
        · intro noClass
          exact ⟨depth, element, parts, bare, noClass⟩
      have named : name ≠ "" := by
        rw [Ne, empty_iff, parts]
        simp
      rw [classKey_of_marked marked, Descriptor.classKey, parts, unique, ← keyChars_marks_eq_nil_iff bare (depth + 1)]
      simp [named]

end InternalName

end ClassMetrics
