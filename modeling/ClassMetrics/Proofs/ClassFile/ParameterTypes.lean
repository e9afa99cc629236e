import ClassMetrics.Proofs.ClassFile.Keys
import ClassMetrics.Proofs.Text.Blank
import ClassMetrics.Proofs.Text.Utf8

namespace ClassMetrics.Descriptor

/-!
The grammar of parameter types. `parameters` accepts a descriptor if and only if it is `(`, a run of types, `)` and
anything behind that, and gives these types. The scan goes by bytes and offsets. Its offset is always the number of
bytes of the characters behind it, so it never cuts a character in two.
-/

/-- What stands behind the array marks of a type. -/
inductive IsElement : List Char → Prop where
  | primitive {letter : Char} (known : letter ∈ "BCDFIJSZ".toList) : IsElement [letter]
  | object {name : List Char} (unended : ';' ∉ name) (inside : ')' ∉ name) : IsElement ('L' :: (name ++ [';']))

def IsType (type : List Char) : Prop :=
  ∃ depth element, type = List.replicate depth '[' ++ element ∧ IsElement element

/-- The characters are those of the types, one type after the other. -/
structure SplitsInto (chars : List Char) (types : List (List Char)) : Prop where
  joined : chars = types.flatten
  each : ∀ type ∈ types, IsType type

/-- A method descriptor with these parameter types. What follows the parameters is not looked at. -/
def Declares (descriptor : String) (types : List String) : Prop :=
  (∀ type ∈ types, IsType type.toList) ∧ ∃ result, descriptor = "(" ++ String.join types ++ ")" ++ result

section Grammar

variable {chars rest tail otherTail element other : List Char} {types : List (List Char)} {depth : Nat}

theorem IsElement.exists_cons (isElement : IsElement element) :
    ∃ lead behind, element = lead :: behind ∧ lead ≠ '[' := by
  cases isElement with
  | primitive known =>
      refine ⟨_, [], rfl, fun same => ?_⟩
      rw [same] at known
      exact absurd known (by decide)
  | object => exact ⟨'L', _, rfl, by decide⟩

theorem IsElement.bare (isElement : IsElement element) (tail : List Char) : (element ++ tail).head? ≠ some '[' := by
  obtain ⟨lead, behind, rfl, other⟩ := isElement.exists_cons
  simpa using other

/-- The first `;` ends a class, so no element is the start of another. -/
theorem IsElement.append_inj (isElement : IsElement element) (isOther : IsElement other)
    (same : element ++ tail = other ++ otherTail) : element = other ∧ tail = otherTail := by
  cases isElement with
  | primitive known =>
      cases isOther with
      | primitive => simpa using same
      | object =>
          have letter := (List.cons.inj same).1
          rw [letter] at known
          exact absurd known (by decide)
  | object unended =>
      cases isOther with
      | primitive known =>
          have letter := (List.cons.inj same).1
          rw [← letter] at known
          exact absurd known (by decide)
      | object otherUnended =>
          simp only [List.cons_append, List.append_assoc, List.nil_append, List.cons.injEq, true_and] at same
          obtain ⟨rfl, rfl⟩ := Text.append_cons_inj unended otherUnended same
          exact ⟨rfl, rfl⟩

theorem splitsInto_nil_iff : SplitsInto [] types ↔ types = [] := by
  constructor
  · intro split
    cases types with
    | nil => rfl
    | cons type later =>
        obtain ⟨depth, element, rfl, isElement⟩ := split.each type List.mem_cons_self
        obtain ⟨lead, behind, rfl, -⟩ := isElement.exists_cons
        have joined := split.joined
        simp at joined
  · intro none
    subst none
    exact ⟨rfl, by simp⟩

theorem splitsInto_cons_iff {type : List Char} :
    SplitsInto chars (type :: types) ↔ ∃ tail, chars = type ++ tail ∧ IsType type ∧ SplitsInto tail types := by
  constructor
  · intro split
    obtain ⟨first, later⟩ := List.forall_mem_cons.mp split.each
    exact ⟨types.flatten, split.joined, first, rfl, later⟩
  · intro ⟨tail, joined, first, split⟩
    exact ⟨by rw [joined, split.joined, List.flatten_cons], List.forall_mem_cons.mpr ⟨first, split.each⟩⟩

/-- Array marks belong to the type whose element follows them; at the end there are none. -/
theorem splitsInto_marks_iff (bare : rest.head? ≠ some '[') :
    SplitsInto (List.replicate depth '[' ++ rest) types ↔
      (depth = 0 ∧ rest = [] ∧ types = []) ∨
        ∃ element tail later, IsElement element ∧ rest = element ++ tail ∧
          types = (List.replicate depth '[' ++ element) :: later ∧ SplitsInto tail later := by
  constructor
  · intro split
    cases types with
    | nil =>
        have nothing : List.replicate depth '[' ++ rest = [] := split.joined
        obtain ⟨noMarks, noRest⟩ := List.append_eq_nil_iff.mp nothing
        exact .inl ⟨by simpa using noMarks, noRest, rfl⟩
    | cons type later =>
        obtain ⟨tail, joined, ⟨otherDepth, element, rfl, isElement⟩, splitLater⟩ := splitsInto_cons_iff.mp split
        rw [List.append_assoc] at joined
        have behind : rest = element ++ tail := by
          have dropped := congrArg (List.dropWhile (· == '[')) joined
          rwa [InternalName.dropWhile_marks bare, InternalName.dropWhile_marks (isElement.bare tail)] at dropped
        have marks : depth = otherDepth := by
          have lengths := congrArg List.length joined
          rw [behind] at lengths
          simpa using lengths
        exact .inr ⟨element, tail, later, isElement, behind, by rw [marks], splitLater⟩
  · intro either
    rcases either with ⟨rfl, rfl, rfl⟩ | ⟨element, tail, later, isElement, rfl, rfl, splitLater⟩
    · exact splitsInto_nil_iff.mpr rfl
    · exact splitsInto_cons_iff.mpr
        ⟨tail, (List.append_assoc ..).symm, ⟨depth, element, rfl, isElement⟩, splitLater⟩

theorem splitsInto_element_iff (isElement : IsElement element) :
    SplitsInto (List.replicate depth '[' ++ (element ++ tail)) types ↔
      ∃ later, types = (List.replicate depth '[' ++ element) :: later ∧ SplitsInto tail later := by
  rw [splitsInto_marks_iff (isElement.bare tail)]
  constructor
  · intro either
    rcases either with ⟨-, nothing, -⟩ | ⟨other, otherTail, later, isOther, same, first, split⟩
    · obtain ⟨lead, behind, rfl, -⟩ := isElement.exists_cons
      cases nothing
    · obtain ⟨rfl, rfl⟩ := isElement.append_inj isOther same
      exact ⟨later, first, split⟩
  · intro ⟨later, first, split⟩
    exact .inr ⟨element, tail, later, isElement, rfl, first, split⟩

theorem not_splitsInto {mark : Char} (unmarked : mark ≠ '[')
    (absent : ∀ element tail, IsElement element → mark :: rest ≠ element ++ tail) :
    ¬ SplitsInto (List.replicate depth '[' ++ mark :: rest) types := by
  intro split
  rcases (splitsInto_marks_iff (by simpa using unmarked)).mp split with
    ⟨-, noRest, -⟩ | ⟨element, tail, -, isElement, same, -⟩
  · cases noRest
  · exact absent element tail isElement same

theorem splitsInto_replicate_iff : SplitsInto (List.replicate depth '[') types ↔ depth = 0 ∧ types = [] := by
  have marks : SplitsInto (List.replicate depth '[' ++ []) types ↔ _ := splitsInto_marks_iff (by simp)
  rw [List.append_nil] at marks
  rw [marks]
  constructor
  · intro either
    rcases either with ⟨unmarked, -, none⟩ | ⟨element, tail, later, isElement, same, -⟩
    · exact ⟨unmarked, none⟩
    · obtain ⟨lead, behind, rfl, -⟩ := isElement.exists_cons
      cases same
  · intro ⟨unmarked, empty⟩
    exact .inl ⟨unmarked, rfl, empty⟩

end Grammar

section Scan

variable {before after rest : List Char} {mark : Char} {lead : UInt8} {bytes : List UInt8}

theorem isPrimitive_iff : isPrimitive mark = true ↔ mark ∈ "BCDFIJSZ".toList :=
  List.contains_iff_mem

theorem lt_of_isPrimitive (known : isPrimitive mark = true) : mark.toNat < 128 := by
  have letters : ("BCDFIJSZ".toList.all fun letter => letter.toNat < 128) = true := rfl
  simpa using List.all_eq_true.mp letters mark (isPrimitive_iff.mp known)

theorem length_marks (before : List Char) (depth : Nat) :
    (Text.utf8 (before ++ List.replicate depth '[')).length = (Text.utf8 before).length + depth := by
  have width : '['.utf8Size = 1 := rfl
  simp [Text.utf8, width]

theorem exists_unmarked_lead (unmarked : mark ≠ '[') (rest : List Char) :
    ∃ lead bytes, Text.utf8 (mark :: rest) = lead :: bytes ∧ lead ≠ '['.toUInt8 := by
  rw [Text.utf8_cons]
  cases parts : String.utf8EncodeChar mark with
  | nil => exact absurd parts String.utf8EncodeChar_ne_nil
  | cons lead behind =>
      refine ⟨lead, _, rfl, fun same => unmarked ?_⟩
      rw [same] at parts
      exact (Text.toUInt8_mem_utf8EncodeChar_iff (by decide)).mp (parts ▸ List.mem_cons_self)

theorem checkOffset_eq_ok (before after : List Char) :
    checkOffset (String.ofList (before ++ after)) (Text.utf8 before).length = .ok () := by
  rw [checkOffset, if_pos]
  exact String.Pos.Raw.isValid_eq_true_iff.mpr (Text.isValid_length_utf8 before after)

theorem cut_eq_ok (before middle after : List Char) :
    cut (String.ofList (before ++ (middle ++ after))) (Text.utf8 before).length
      (Text.utf8 (before ++ middle)).length = .ok (String.ofList middle) := by
  have starts := Text.isValid_length_utf8 before (middle ++ after)
  have stops := Text.isValid_length_utf8 (before ++ middle) after
  rw [List.append_assoc] at stops
  rw [cut, dif_pos ⟨starts, stops⟩]
  exact congrArg Except.ok (Text.extract_ofList before middle after rfl rfl)

theorem elementWidth_ended (before tail : List Char) {name : List Char} (unended : ';' ∉ name) :
    elementWidth (String.ofList (before ++ 'L' :: (name ++ ';' :: tail))) (Text.utf8 before).length 'L'.toUInt8
      (Text.utf8 (name ++ ';' :: tail)) = .ok (Text.utf8 ('L' :: (name ++ [';']))).length := by
  have lead : Char.ofUInt8 'L'.toUInt8 = 'L' := rfl
  have width : (Text.utf8 ('L' :: (name ++ [';']))).length = (Text.utf8 name).length + 2 := by
    rw [Text.utf8_cons, Text.utf8_append, List.length_append, List.length_append]
    have first : (String.utf8EncodeChar 'L').length = 1 := rfl
    have last : (Text.utf8 [';']).length = 1 := rfl
    omega
  simp only [elementWidth, lead, checkOffset_eq_ok, Text.idxOf?_utf8_append (by decide) unended, width]

theorem elementWidth_unended (before : List Char) (unended : ';' ∉ rest) :
    elementWidth (String.ofList (before ++ 'L' :: rest)) (Text.utf8 before).length 'L'.toUInt8 (Text.utf8 rest) =
      .error .malformed := by
  have lead : Char.ofUInt8 'L'.toUInt8 = 'L' := rfl
  have absent : (Text.utf8 rest).idxOf? ';'.toUInt8 = none :=
    List.idxOf?_eq_none_iff.mpr (mt (Text.toUInt8_mem_utf8_iff (by decide)).mp unended)
  simp only [elementWidth, lead, checkOffset_eq_ok, absent]

theorem elementWidth_other {text : String} {offset : Nat} (notClass : Char.ofUInt8 lead ≠ 'L') :
    elementWidth text offset lead bytes =
      if isPrimitive (Char.ofUInt8 lead) then .ok 1 else .error .malformed := by
  unfold elementWidth
  split
  · rename_i isClass
    exact absurd isClass notClass
  · rfl

/-- The outcome is the width of the element at the start of the characters, or a refusal if there is none. -/
def Measures (chars : List Char) (outcome : Except ScanFault Nat) : Prop :=
  (∃ element tail, IsElement element ∧ chars = element ++ tail ∧ outcome = .ok (Text.utf8 element).length) ∨
    (∀ element tail, IsElement element → chars ≠ element ++ tail) ∧ outcome = .error .malformed

theorem measures_class (before : List Char) (inside : ')' ∉ rest) :
    Measures ('L' :: rest) (elementWidth (String.ofList (before ++ 'L' :: rest)) (Text.utf8 before).length
      'L'.toUInt8 (Text.utf8 rest)) := by
  by_cases ended : ';' ∈ rest
  · obtain ⟨name, tail, rfl, unended⟩ := List.eq_append_cons_of_mem ended
    have insideName : ')' ∉ name := fun member => inside (List.mem_append_left _ member)
    exact .inl ⟨_, tail, .object unended insideName, by simp, elementWidth_ended before tail unended⟩
  · refine .inr ⟨fun element tail isElement same => ?_, elementWidth_unended before ended⟩
    cases isElement with
    | primitive known =>
        rw [← (List.cons.inj same).1] at known
        exact absurd known (by decide)
    | object =>
        rw [(List.cons.inj same).2] at ended
        simp at ended

theorem measures_letter {text : String} {offset : Nat} (single : mark.toNat < 128) (notClass : mark ≠ 'L')
    (rest : List Char) : Measures (mark :: rest) (elementWidth text offset mark.toUInt8 (Text.utf8 rest)) := by
  have letter := Text.ofUInt8_toUInt8 single
  rw [elementWidth_other (by rwa [letter]), letter]
  by_cases known : isPrimitive mark = true
  · refine .inl ⟨[mark], rest, .primitive (isPrimitive_iff.mp known), rfl, ?_⟩
    rw [if_pos known, Text.utf8_cons, Text.utf8EncodeChar_of_lt single]
    rfl
  · refine .inr ⟨fun element tail isElement same => ?_, if_neg known⟩
    cases isElement with
    | primitive isLetter => exact known (isPrimitive_iff.mpr ((List.cons.inj same).1 ▸ isLetter))
    | object => exact notClass (List.cons.inj same).1

/-- No byte of a wide character is one of the letters. -/
theorem measures_wide {text : String} {offset : Nat} (wide : 128 ≤ mark.toNat) (large : 128 ≤ (Char.ofUInt8 lead).toNat)
    (rest : List Char) : Measures (mark :: rest) (elementWidth text offset lead bytes) := by
  have notClass : Char.ofUInt8 lead ≠ 'L' := by
    intro isClass
    rw [isClass] at large
    exact absurd large (by decide)
  have unknown : ¬ isPrimitive (Char.ofUInt8 lead) = true := by
    intro known
    have small := lt_of_isPrimitive known
    omega
  rw [elementWidth_other notClass, if_neg unknown]
  refine .inr ⟨fun element tail isElement same => ?_, rfl⟩
  cases isElement with
  | primitive known =>
      have small := lt_of_isPrimitive (isPrimitive_iff.mpr known)
      rw [← (List.cons.inj same).1] at small
      omega
  | object =>
      rw [(List.cons.inj same).1] at wide
      exact absurd wide (by decide)

theorem elementWidth_measures (before : List Char) (inside : ')' ∉ mark :: rest)
    (encoded : Text.utf8 (mark :: rest) = lead :: bytes) :
    Measures (mark :: rest)
      (elementWidth (String.ofList (before ++ mark :: rest)) (Text.utf8 before).length lead bytes) := by
  rw [Text.utf8_cons] at encoded
  by_cases single : mark.toNat < 128
  · rw [Text.utf8EncodeChar_of_lt single] at encoded
    obtain ⟨rfl, rfl⟩ := List.cons.inj encoded
    by_cases isClass : mark = 'L'
    · subst isClass
      exact measures_class before fun member => inside (.tail _ member)
    · exact measures_letter single isClass rest
  · have wide := Nat.not_lt.mp single
    obtain ⟨first, behind, parts, large⟩ := Text.exists_lead wide
    rw [parts] at encoded
    obtain ⟨rfl, rfl⟩ := List.cons.inj encoded
    exact measures_wide wide large rest

section Steps

variable {text type : String} {start offset width : Nat} {done : Array String} {fault : ScanFault}

theorem scanTypes_marked :
    scanTypes text start offset done (Text.utf8 ('[' :: rest)) =
      scanTypes text start (offset + 1) done (Text.utf8 rest) := by
  have encoded : Text.utf8 ('[' :: rest) = '['.toUInt8 :: Text.utf8 rest := rfl
  rw [encoded, scanTypes, if_pos rfl]

theorem scanTypes_refused (unmarked : lead ≠ '['.toUInt8)
    (refused : elementWidth text offset lead bytes = .error fault) :
    scanTypes text start offset done (lead :: bytes) = .error fault := by
  rw [scanTypes, if_neg unmarked, refused]

theorem scanTypes_accepted (unmarked : lead ≠ '['.toUInt8)
    (found : elementWidth text offset lead bytes = .ok width)
    (taken : cut text start (offset + width) = .ok type) :
    scanTypes text start offset done (lead :: bytes) =
      scanTypes text (offset + width) (offset + width) (done.push type) (bytes.drop (width - 1)) := by
  rw [scanTypes, if_neg unmarked, found]
  simp only [taken]

/-- A whole type is split off and the scan goes on behind it. -/
theorem scanTypes_element {element tail : List Char} {depth : Nat} (isElement : IsElement element)
    (unmarked : lead ≠ '['.toUInt8) (encoded : Text.utf8 (element ++ tail) = lead :: bytes)
    (found : elementWidth (String.ofList (before ++ (List.replicate depth '[' ++ (element ++ tail))))
      ((Text.utf8 before).length + depth) lead bytes = .ok (Text.utf8 element).length) :
    scanTypes (String.ofList (before ++ (List.replicate depth '[' ++ (element ++ tail)))) (Text.utf8 before).length
        ((Text.utf8 before).length + depth) done (lead :: bytes) =
      scanTypes (String.ofList (before ++ (List.replicate depth '[' ++ (element ++ tail))))
        (Text.utf8 (before ++ (List.replicate depth '[' ++ element))).length
        (Text.utf8 (before ++ (List.replicate depth '[' ++ element))).length
        (done.push (String.ofList (List.replicate depth '[' ++ element))) (Text.utf8 tail) := by
  have reached : (Text.utf8 (before ++ (List.replicate depth '[' ++ element))).length =
      (Text.utf8 before).length + depth + (Text.utf8 element).length := by
    rw [← List.append_assoc, Text.utf8_append, List.length_append, length_marks]
  have taken := cut_eq_ok before (List.replicate depth '[' ++ element) tail
  rw [List.append_assoc, reached] at taken
  have onward : bytes.drop ((Text.utf8 element).length - 1) = Text.utf8 tail := by
    obtain ⟨first, behind, rfl, -⟩ := isElement.exists_cons
    have positive : 0 < (Text.utf8 (first :: behind)).length := by
      rw [Text.utf8_cons, List.length_append, String.length_utf8EncodeChar]
      exact Nat.add_pos_left first.utf8Size_pos _
    have dropped := congrArg (List.drop (Text.utf8 (first :: behind)).length) encoded
    rw [Text.utf8_append, List.drop_left, List.drop_cons positive] at dropped
    exact dropped.symm
  rw [scanTypes_accepted unmarked found taken, onward, reached]

end Steps

/-- What a scan of these characters gives, if `done` was split off before them. -/
structure Scanned (chars : List Char) (done : Array String) (outcome : Except ScanFault (Array String)) : Prop where
  between : outcome ≠ .error .insideCharacter
  accepts : ∀ types, outcome = .ok types ↔
    ∃ later, SplitsInto chars later ∧ types = done ++ (later.map String.ofList).toArray

theorem Scanned.malformed {chars : List Char} {done : Array String}
    (unsplit : ∀ types, ¬ SplitsInto chars types) : Scanned chars done (.error .malformed) where
  between := by simp
  accepts types := by simp [unsplit]

theorem Scanned.element {element tail : List Char} {depth : Nat} {done : Array String}
    {outcome : Except ScanFault (Array String)} (isElement : IsElement element)
    (scanned : Scanned tail (done.push (String.ofList (List.replicate depth '[' ++ element))) outcome) :
    Scanned (List.replicate depth '[' ++ (element ++ tail)) done outcome where
  between := scanned.between
  accepts types := by
    rw [scanned.accepts]
    constructor
    · intro ⟨later, split, all⟩
      refine ⟨_, (splitsInto_element_iff isElement).mpr ⟨later, rfl, split⟩, ?_⟩
      rw [all, ← Array.toList_inj]
      simp
    · intro ⟨found, split, all⟩
      obtain ⟨later, rfl, splitLater⟩ := (splitsInto_element_iff isElement).mp split
      refine ⟨later, splitLater, ?_⟩
      rw [all, ← Array.toList_inj]
      simp

/-- Marks that no type follows are refused. -/
theorem scanTypes_nil_scanned (text : String) (start depth : Nat) (done : Array String) :
    Scanned (List.replicate depth '[') done (scanTypes text start (start + depth) done []) := by
  rw [scanTypes]
  by_cases unmarked : depth = 0
  · rw [if_pos (by omega)]
    refine ⟨by simp, fun types => ?_⟩
    simp only [splitsInto_replicate_iff, unmarked, true_and, exists_eq_left, Except.ok.injEq]
    simp [eq_comm]
  · rw [if_neg (by omega)]
    exact .malformed fun types split => unmarked (splitsInto_replicate_iff.mp split).1

/-- Every step goes on behind a whole character, and behind an element with the types after it. -/
theorem scanTypes_scanned (before : List Char) (depth : Nat) (done : Array String) (inside : ')' ∉ after) :
    Scanned (List.replicate depth '[' ++ after) done
      (scanTypes (String.ofList (before ++ (List.replicate depth '[' ++ after))) (Text.utf8 before).length
        ((Text.utf8 before).length + depth) done (Text.utf8 after)) := by
  induction bound : after.length using Nat.strongRecOn generalizing before depth done after with
  | _ length ih =>
      subst bound
      cases after with
      | nil =>
          rw [List.append_nil]
          exact scanTypes_nil_scanned _ _ depth done
      | cons mark rest =>
          by_cases marked : mark = '['
          · subst marked
            have later : ')' ∉ rest := fun member => inside (.tail _ member)
            have deeper := ih rest.length (by simp) before (depth + 1) done later rfl
            have moved : List.replicate (depth + 1) '[' ++ rest = List.replicate depth '[' ++ '[' :: rest := by
              rw [List.replicate_succ', List.append_assoc, List.singleton_append]
            rwa [moved, ← Nat.add_assoc, ← scanTypes_marked] at deeper
          · obtain ⟨lead, bytes, encoded, unmarked⟩ := exists_unmarked_lead marked rest
            rw [encoded]
            rcases elementWidth_measures (before ++ List.replicate depth '[') inside encoded with
              ⟨element, tail, isElement, same, found⟩ | ⟨absent, refused⟩
            · rw [List.append_assoc, length_marks] at found
              rw [same] at encoded found inside ⊢
              rw [scanTypes_element isElement unmarked encoded found]
              have later : ')' ∉ tail := fun member => inside (List.mem_append_right _ member)
              have shorter : tail.length < (mark :: rest).length := by
                obtain ⟨first, behind, rfl, -⟩ := isElement.exists_cons
                rw [same, List.length_append, List.length_cons]
                omega
              have onward := ih _ shorter (before ++ (List.replicate depth '[' ++ element)) 0
                (done.push (String.ofList (List.replicate depth '[' ++ element))) later rfl
              rw [List.replicate_zero, List.nil_append, Nat.add_zero, List.append_assoc, List.append_assoc] at onward
              exact onward.element isElement
            · rw [List.append_assoc, length_marks] at refused
              rw [scanTypes_refused unmarked refused]
              exact .malformed fun types => not_splitsInto marked absent

theorem splitTypes_scanned {chars : List Char} (inside : ')' ∉ chars) :
    Scanned chars #[] (splitTypes (String.ofList chars)) := by
  rw [splitTypes, Text.toList_toUTF8, String.toList_ofList]
  exact scanTypes_scanned [] 0 #[] inside

end Scan

section Descriptors

variable {descriptor : String} {types : List String}

theorem parameterText?_eq_some_iff {chars text : List Char} :
    parameterText? chars = some text ↔ ')' ∉ text ∧ ∃ result, chars = '(' :: (text ++ ')' :: result) := by
  constructor
  · intro found
    unfold parameterText? at found
    split at found
    · rename_i rest
      split at found
      · rename_i closed
        obtain ⟨inner, result, rfl, inside⟩ := List.eq_append_cons_of_mem (List.contains_iff_mem.mp closed)
        rw [Text.takeWhile_ne_append inside] at found
        obtain rfl := Option.some.inj found
        exact ⟨inside, result, rfl⟩
      · cases found
    · cases found
  · intro ⟨inside, result, same⟩
    have closed : (text ++ ')' :: result).contains ')' = true := by simp
    rw [same, parameterText?, if_pos closed, Text.takeWhile_ne_append inside]

theorem IsType.inside {type : List Char} (isType : IsType type) : ')' ∉ type := by
  obtain ⟨depth, element, rfl, isElement⟩ := isType
  have noMark : ')' ∉ List.replicate depth '[' := fun member => absurd (List.eq_of_mem_replicate member) (by decide)
  cases isElement with
  | primitive known =>
      have other : ')' ∉ "BCDFIJSZ".toList := by decide
      intro member
      rcases List.mem_append.mp member with marked | last
      · exact noMark marked
      · rw [← List.mem_singleton.mp last] at known
        exact other known
  | object unended inside => simp [noMark, inside]

/-- The text between the parentheses splits into the types that the descriptor declares. -/
theorem declares_iff :
    Declares descriptor types ↔
      ∃ text, parameterText? descriptor.toList = some text ∧ SplitsInto text (types.map String.toList) := by
  simp only [parameterText?_eq_some_iff]
  constructor
  · intro ⟨each, result, same⟩
    refine ⟨(types.map String.toList).flatten, ⟨?_, result.toList, ?_⟩, rfl, by simpa using each⟩
    · intro member
      obtain ⟨type, inTypes, inType⟩ := List.mem_flatten.mp member
      obtain ⟨text, given, rfl⟩ := List.mem_map.mp inTypes
      exact (each text given).inside inType
    · rw [same]
      simp [String.toList_join, List.flatMap_def]
  · intro ⟨text, ⟨inside, result, same⟩, split⟩
    refine ⟨by simpa using split.each, String.ofList result, ?_⟩
    rw [← String.toList_inj, same, split.joined]
    simp [String.toList_join, List.flatMap_def]

theorem parameters_eq_ok_iff : parameters descriptor = .ok types ↔ Declares descriptor types := by
  rw [declares_iff]
  cases found : parameterText? descriptor.toList with
  | none => simp [parameters, found]
  | some text =>
      have scanned := splitTypes_scanned (parameterText?_eq_some_iff.mp found).1
      have split : SplitsInto text (types.map String.toList) ↔ splitTypes (String.ofList text) = .ok types.toArray := by
        rw [scanned.accepts]
        constructor
        · intro split
          exact ⟨_, split, by simp [Function.comp_def]⟩
        · intro ⟨later, split, all⟩
          have same : types = later.map String.ofList := by simpa using all
          rw [same, List.map_map]
          simpa [Function.comp_def] using split
      simp only [parameters, found, Option.some.injEq, exists_eq_left', split]
      cases outcome : splitTypes (String.ofList text) with
      | error fault => simp
      | ok accepted => simp [← Array.toList_inj]

/-- Whatever is not accepted is refused with the descriptor in the message. -/
theorem parameters_ok_or_invalid (descriptor : String) :
    (∃ types, parameters descriptor = .ok types) ∨ parameters descriptor = .error (.invalidDescriptor descriptor) := by
  unfold parameters
  split
  · exact .inr rfl
  · split
    · exact .inl ⟨_, rfl⟩
    · exact .inr rfl

/-- The accepted descriptors are those of the grammar, the types are those that it gives, and no cut falls inside a
character on the way. -/
theorem parameters_follow_grammar (descriptor : String) :
    (∀ types, parameters descriptor = .ok types ↔ Declares descriptor types) ∧
      (∀ types others, Declares descriptor types → Declares descriptor others → types = others) ∧
      (parameters descriptor = .error (.invalidDescriptor descriptor) ↔ ¬ ∃ types, Declares descriptor types) ∧
      ∀ text, parameterText? descriptor.toList = some text →
        splitTypes (String.ofList text) ≠ .error .insideCharacter := by
  refine ⟨fun types => parameters_eq_ok_iff, fun types others declared alsoDeclared => ?_, ?_, fun text found => ?_⟩
  · have first := parameters_eq_ok_iff.mpr declared
    have second := parameters_eq_ok_iff.mpr alsoDeclared
    exact Except.ok.inj (first.symm.trans second)
  · simp only [← parameters_eq_ok_iff]
    rcases parameters_ok_or_invalid descriptor with ⟨types, accepted⟩ | refused
    · simp [accepted]
    · simp [refused]
  · exact (splitTypes_scanned (parameterText?_eq_some_iff.mp found).1).between

end Descriptors

end ClassMetrics.Descriptor
