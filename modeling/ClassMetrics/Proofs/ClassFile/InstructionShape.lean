import ClassMetrics.Proofs.ClassFile.Reads

namespace ClassMetrics

namespace Code

/-- Opcodes with a fixed number of operand bytes. -/
structure OpcodeRange where
  first : UInt8
  last : UInt8
  operands : Nat
deriving Repr, DecidableEq

def opcodeRanges : List OpcodeRange := [
  -- constants, loads and stores by number, arrays, stack, arithmetic, conversions, comparisons
  ⟨0x00, 0x0f, 0⟩, ⟨0x1a, 0x35, 0⟩, ⟨0x3b, 0x83, 0⟩, ⟨0x85, 0x98, 0⟩,
  -- returns, length of an array and throw, monitors, reserved opcodes
  ⟨0xac, 0xb1, 0⟩, ⟨0xbe, 0xbf, 0⟩, ⟨0xc2, 0xc3, 0⟩, ⟨0xca, 0xca, 0⟩, ⟨0xfe, 0xff, 0⟩,
  -- a byte, a constant, a local, the return address in a local, an array of numbers
  ⟨0x10, 0x10, 1⟩, ⟨0x12, 0x12, 1⟩, ⟨0x15, 0x19, 1⟩, ⟨0x36, 0x3a, 1⟩, ⟨0xa9, 0xa9, 1⟩, ⟨0xbc, 0xbc, 1⟩,
  -- a number, a constant, an increment, a branch, a member, a class
  ⟨0x11, 0x11, 2⟩, ⟨0x13, 0x14, 2⟩, ⟨0x84, 0x84, 2⟩, ⟨0x99, 0xa8, 2⟩, ⟨0xb2, 0xb8, 2⟩, ⟨0xbb, 0xbb, 2⟩,
  ⟨0xbd, 0xbd, 2⟩, ⟨0xc0, 0xc1, 2⟩, ⟨0xc6, 0xc7, 2⟩,
  -- an array of several dimensions, interface and dynamic calls, wide branches
  ⟨0xc5, 0xc5, 3⟩, ⟨0xb9, 0xba, 4⟩, ⟨0xc8, 0xc9, 4⟩]

def TakesOperands (opcode : UInt8) (count : Nat) : Prop :=
  ∃ range ∈ opcodeRanges, range.first ≤ opcode ∧ opcode ≤ range.last ∧ range.operands = count

/-- Four bytes as a signed number. -/
def signedValue (bytes : List UInt8) : Int :=
  Int.bmod (bigEndian bytes) (2 ^ 32)

/-- The operand bytes that make an opcode at address `pc` a whole instruction. -/
inductive Shape (pc : Nat) : UInt8 → List UInt8 → Prop where
  | fixed {opcode : UInt8} {operands : List UInt8} :
      TakesOperands opcode operands.length → Shape pc opcode operands
  /-- The padding ends at a multiple of four; an offset for each number from `low` to `high`. -/
  | tableSwitch {padding default low high offsets : List UInt8} :
      padding.length < 4 → (pc + 1 + padding.length) % 4 = 0 →
      default.length = 4 → low.length = 4 → high.length = 4 →
      signedValue low ≤ signedValue high →
      (offsets.length : Int) = 4 * (signedValue high - signedValue low + 1) →
      Shape pc 0xaa (padding ++ (default ++ (low ++ (high ++ offsets))))
  | lookupSwitch {padding default count pairs : List UInt8} :
      padding.length < 4 → (pc + 1 + padding.length) % 4 = 0 →
      default.length = 4 → count.length = 4 →
      0 ≤ signedValue count → (pairs.length : Int) = 8 * signedValue count →
      Shape pc 0xab (padding ++ (default ++ (count ++ pairs)))
  | wideIncrement {operands : List UInt8} : operands.length = 4 → Shape pc 0xc4 (iinc :: operands)
  | wide {widened : UInt8} {operands : List UInt8} :
      widened ≠ iinc → operands.length = 2 → Shape pc 0xc4 (widened :: operands)

section Opcodes

variable {opcode : UInt8}

def operandCounts : Layout → List Nat
  | .fixed (count + 1) => [count]
  | _ => []

theorem mem_operandCounts {form : Layout} {count : Nat} :
    count ∈ operandCounts form ↔ form = .fixed (count + 1) := by
  unfold operandCounts
  split
  · simp [eq_comm]
  · rename_i other
    simpa using other count

theorem layout_eq_fixed_iff {count : Nat} :
    layout opcode = .fixed (count + 1) ↔ TakesOperands opcode count := by
  have listed : ∀ opcode : UInt8,
      (opcodeRanges.filter fun range => range.first ≤ opcode && opcode ≤ range.last).map (·.operands) =
        operandCounts (layout opcode) := by
    apply forall_byte_of_table
    decide +kernel
  rw [← mem_operandCounts, ← listed]
  simp only [List.mem_map, List.mem_filter, Bool.and_eq_true, decide_eq_true_eq, TakesOperands, and_assoc]

theorem layout_iff :
    (layout opcode = .tableSwitch ↔ opcode = 0xaa) ∧ (layout opcode = .lookupSwitch ↔ opcode = 0xab) ∧
      (layout opcode = .wide ↔ opcode = 0xc4) ∧ layout opcode ≠ .fixed 0 := by
  revert opcode
  apply forall_byte_of_table
  decide +kernel

end Opcodes

section Numbers

variable {pc start : Nat} {before bytes after operands : List UInt8}

-- for any number: on `bigEndian bytes` itself the comparison with the literal would be evaluated
theorem bmod_eq {value : Nat} (small : value < 0x100000000) :
    Int.bmod value (2 ^ 32) = if value < 0x80000000 then (value : Int) else value - 0x100000000 := by
  simp only [Int.bmod_def]
  split <;> split <;> omega

theorem signed32_eq {skipped : Nat} (parts : operands = before ++ (bytes ++ after))
    (position : before.length = skipped) (width : bytes.length = 4) :
    signed32 start operands skipped = .ok (signedValue bytes) := by
  subst parts position
  have taken : ((before ++ (bytes ++ after)).drop before.length).take 4 = bytes := by
    rw [List.drop_left, List.take_left' width]
  have small : bigEndian bytes < 0x100000000 := by simpa [width] using bigEndian_lt bytes
  unfold signed32
  rewrite [taken, if_pos width]
  exact congrArg Except.ok (bmod_eq small).symm

theorem signed32_second {pad default rest : List UInt8} (padLength : pad.length = padding pc)
    (defaultLength : default.length = 4) (width : bytes.length = 4) :
    signed32 start (pad ++ (default ++ (bytes ++ after)) ++ rest) (padding pc + 4) =
      .ok (signedValue bytes) := by
  have parts : pad ++ (default ++ (bytes ++ after)) ++ rest =
      (pad ++ default) ++ (bytes ++ (after ++ rest)) := by
    simp only [List.append_assoc]
  exact signed32_eq parts (by simp [padLength, defaultLength]) width

theorem signed32_third {pad default second rest : List UInt8} (padLength : pad.length = padding pc)
    (defaultLength : default.length = 4) (secondLength : second.length = 4) (width : bytes.length = 4) :
    signed32 start (pad ++ (default ++ (second ++ (bytes ++ after))) ++ rest) (padding pc + 8) =
      .ok (signedValue bytes) := by
  have parts : pad ++ (default ++ (second ++ (bytes ++ after))) ++ rest =
      (pad ++ default ++ second) ++ (bytes ++ (after ++ rest)) := by
    simp only [List.append_assoc]
  exact signed32_eq parts (by simp [padLength, defaultLength, secondLength]) width

theorem padding_iff {count : Nat} : count < 4 ∧ (pc + 1 + count) % 4 = 0 ↔ count = padding pc := by
  unfold padding
  omega

end Numbers

section Lengths

variable {pc length : Nat} {opcode : UInt8} {operands body rest : List UInt8}

theorem exists_parts {count : Nat} {bytes : List UInt8} (enough : count ≤ bytes.length) :
    ∃ taken left, bytes = taken ++ left ∧ taken.length = count :=
  ⟨bytes.take count, bytes.drop count, (List.take_append_drop count bytes).symm,
    List.length_take_of_le enough⟩

theorem statedLength_tableSwitch_iff :
    statedLength pc 0xaa operands = .ok length ↔
      ∃ low high, signed32 (pc + 1) operands (padding pc + 4) = .ok low ∧
        signed32 (pc + 1) operands (padding pc + 8) = .ok high ∧ low ≤ high ∧
        length = 1 + padding pc + 12 + (high - low + 1).toNat * 4 := by
  have form : layout 0xaa = .tableSwitch := rfl
  simp only [statedLength, form, bind_eq_ok_iff]
  constructor
  · rintro ⟨low, lowRead, high, highRead, stated⟩
    split at stated <;> cases stated
    exact ⟨low, high, lowRead, highRead, by omega, rfl⟩
  · rintro ⟨low, high, lowRead, highRead, ordered, rfl⟩
    refine ⟨low, lowRead, high, highRead, ?_⟩
    rw [if_neg (by omega)]
    rfl

theorem statedLength_lookupSwitch_iff :
    statedLength pc 0xab operands = .ok length ↔
      ∃ pairs, signed32 (pc + 1) operands (padding pc + 4) = .ok pairs ∧ 0 ≤ pairs ∧
        length = 1 + padding pc + 8 + pairs.toNat * 8 := by
  have form : layout 0xab = .lookupSwitch := rfl
  simp only [statedLength, form, bind_eq_ok_iff]
  constructor
  · rintro ⟨pairs, pairsRead, stated⟩
    split at stated <;> cases stated
    exact ⟨pairs, pairsRead, by omega, rfl⟩
  · rintro ⟨pairs, pairsRead, natural, rfl⟩
    refine ⟨pairs, pairsRead, ?_⟩
    rw [if_neg (by omega)]
    rfl

theorem shape_of_tableSwitch (stated : statedLength pc 0xaa (body ++ rest) = .ok (body.length + 1)) :
    Shape pc 0xaa body := by
  obtain ⟨lowest, highest, lowRead, highRead, ordered, total⟩ := statedLength_tableSwitch_iff.mp stated
  -- the length has room for the padding and three numbers, so both bounds are read inside `body`
  obtain ⟨pad, body, rfl, padLength⟩ := exists_parts (show padding pc ≤ body.length by omega)
  rw [List.length_append] at total
  obtain ⟨default, body, rfl, defaultLength⟩ := exists_parts (show 4 ≤ body.length by omega)
  rw [List.length_append] at total
  obtain ⟨low, body, rfl, lowLength⟩ := exists_parts (show 4 ≤ body.length by omega)
  rw [List.length_append] at total
  obtain ⟨high, offsets, rfl, highLength⟩ := exists_parts (show 4 ≤ body.length by omega)
  rw [List.length_append] at total
  rw [signed32_second padLength defaultLength lowLength] at lowRead
  rw [signed32_third padLength defaultLength lowLength highLength] at highRead
  have whole : (offsets.length : Int) = 4 * (highest - lowest + 1) := by omega
  obtain ⟨short, aligned⟩ := padding_iff.mpr padLength
  rewrite [← Except.ok.inj lowRead, ← Except.ok.inj highRead] at ordered whole
  exact .tableSwitch short aligned defaultLength lowLength highLength ordered whole

theorem shape_of_lookupSwitch (stated : statedLength pc 0xab (body ++ rest) = .ok (body.length + 1)) :
    Shape pc 0xab body := by
  obtain ⟨stored, countRead, natural, total⟩ := statedLength_lookupSwitch_iff.mp stated
  obtain ⟨pad, body, rfl, padLength⟩ := exists_parts (show padding pc ≤ body.length by omega)
  rw [List.length_append] at total
  obtain ⟨default, body, rfl, defaultLength⟩ := exists_parts (show 4 ≤ body.length by omega)
  rw [List.length_append] at total
  obtain ⟨count, pairs, rfl, countLength⟩ := exists_parts (show 4 ≤ body.length by omega)
  rw [List.length_append] at total
  rw [signed32_second padLength defaultLength countLength] at countRead
  have whole : (pairs.length : Int) = 8 * stored := by omega
  obtain ⟨short, aligned⟩ := padding_iff.mpr padLength
  rewrite [← Except.ok.inj countRead] at natural whole
  exact .lookupSwitch short aligned defaultLength countLength natural whole

theorem shape_of_wide (stated : statedLength pc 0xc4 (body ++ rest) = .ok (body.length + 1)) :
    Shape pc 0xc4 body := by
  have form : layout 0xc4 = .wide := rfl
  simp only [statedLength, form] at stated
  cases body with
  | nil =>
      cases rest with
      | nil => cases stated
      | cons widened rest =>
          have total := Except.ok.inj stated
          split at total <;> cases total
  | cons widened operands =>
      have total := Except.ok.inj stated
      rw [List.length_cons] at total
      by_cases increment : widened = iinc
      · rw [if_pos increment] at total
        subst increment
        exact .wideIncrement (by omega)
      · rw [if_neg increment] at total
        exact .wide increment (by omega)

theorem Shape.stated (shape : Shape pc opcode body) (rest : List UInt8) :
    statedLength pc opcode (body ++ rest) = .ok (body.length + 1) := by
  cases shape with
  | fixed takes => simp only [statedLength, layout_eq_fixed_iff.mpr takes]
  | @tableSwitch _ _ low high _ short aligned defaultLength lowLength highLength ordered whole =>
      have padLength := padding_iff.mp ⟨short, aligned⟩
      refine statedLength_tableSwitch_iff.mpr ⟨_, _, ?_, ?_, ordered, ?_⟩
      · exact signed32_second padLength defaultLength lowLength
      · exact signed32_third padLength defaultLength lowLength highLength
      · generalize signedValue low = lowest, signedValue high = highest at ordered whole ⊢
        simp only [List.length_append]
        omega
  | @lookupSwitch _ _ count _ short aligned defaultLength countLength natural whole =>
      have padLength := padding_iff.mp ⟨short, aligned⟩
      refine statedLength_lookupSwitch_iff.mpr ⟨_, ?_, natural, ?_⟩
      · exact signed32_second padLength defaultLength countLength
      · generalize signedValue count = stored at natural whole ⊢
        simp only [List.length_append]
        omega
  | wideIncrement width =>
      have form : layout 0xc4 = .wide := rfl
      simp [statedLength, form, width]
  | wide other width =>
      have form : layout 0xc4 = .wide := rfl
      simp [statedLength, form, width, other]

theorem stated_iff_shape :
    statedLength pc opcode (body ++ rest) = .ok (body.length + 1) ↔ Shape pc opcode body := by
  refine ⟨fun stated => ?_, fun shape => shape.stated rest⟩
  obtain ⟨table, lookup, wide, _⟩ := @layout_iff opcode
  cases form : layout opcode with
  | fixed length =>
      simp only [statedLength, form] at stated
      rw [Except.ok.inj stated] at form
      exact .fixed (layout_eq_fixed_iff.mp form)
  | tableSwitch =>
      rw [table.mp form] at stated ⊢
      exact shape_of_tableSwitch stated
  | lookupSwitch =>
      rw [lookup.mp form] at stated ⊢
      exact shape_of_lookupSwitch stated
  | wide =>
      rw [wide.mp form] at stated ⊢
      exact shape_of_wide stated
  | undefined =>
      simp only [statedLength, form] at stated
      cases stated

theorem instructionLength_eq_ok_iff :
    instructionLength pc opcode operands = .ok length ↔
      statedLength pc opcode operands = .ok length ∧ length ≤ operands.length + 1 := by
  simp only [instructionLength, bind_eq_ok_iff, List.length_take]
  constructor
  · rintro ⟨stated, found, complete⟩
    split at complete <;> cases complete
    exact ⟨found, by omega⟩
  · rintro ⟨found, present⟩
    refine ⟨length, found, ?_⟩
    rw [if_neg (by omega)]
    rfl

theorem length_pos_of_stated (stated : statedLength pc opcode operands = .ok length) : 0 < length := by
  obtain ⟨table, lookup, wide, positive⟩ := @layout_iff opcode
  cases form : layout opcode with
  | fixed count =>
      simp only [statedLength, form, Except.ok.injEq] at stated
      subst stated
      exact Nat.pos_of_ne_zero fun zero => positive (zero ▸ form)
  | tableSwitch =>
      rw [table.mp form] at stated
      obtain ⟨_, _, _, _, _, rfl⟩ := statedLength_tableSwitch_iff.mp stated
      omega
  | lookupSwitch =>
      rw [lookup.mp form] at stated
      obtain ⟨_, _, _, rfl⟩ := statedLength_lookupSwitch_iff.mp stated
      omega
  | wide =>
      simp only [statedLength, form] at stated
      split at stated <;> cases stated
      split <;> omega
  | undefined =>
      simp only [statedLength, form] at stated
      cases stated

theorem instructionLength_iff_shape :
    instructionLength pc opcode operands = .ok length ↔
      ∃ body rest, operands = body ++ rest ∧ length = body.length + 1 ∧ Shape pc opcode body := by
  rw [instructionLength_eq_ok_iff]
  constructor
  · rintro ⟨stated, present⟩
    have positive := length_pos_of_stated stated
    obtain ⟨body, rest, rfl, bodyLength⟩ := exists_parts (show length - 1 ≤ operands.length by omega)
    obtain rfl : length = body.length + 1 := by omega
    exact ⟨body, rest, rfl, rfl, stated_iff_shape.mp stated⟩
  · rintro ⟨body, rest, rfl, rfl, shape⟩
    exact ⟨shape.stated rest, by simp⟩

end Lengths

end Code

end ClassMetrics
