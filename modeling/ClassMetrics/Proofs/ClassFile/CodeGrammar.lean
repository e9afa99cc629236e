import ClassMetrics.Proofs.ClassFile.InstructionShape
import ClassMetrics.Proofs.ClassFile.Lookups
import Mathlib.Data.List.Basic

namespace ClassMetrics

/-!
Code arrays as a grammar: shapes one after another, with what is kept of each. The decoder accepts the code arrays
and nothing else, and its loop ends on every input.
-/

namespace Code

/-- What is kept of an instruction. -/
inductive Meaning (pool : ConstantPool) : UInt8 → List UInt8 → Instruction → Prop where
  | access {kind : FieldAccess} {high low : UInt8} {ref : MemberRef} :
      pool.Refers (bigEndian [high, low]) ref → Meaning pool kind.opcode [high, low] (.access kind ref)
  | invoke {dispatch : Dispatch} {high low : UInt8} {more : List UInt8} {ref : MemberRef} :
      pool.Refers (bigEndian [high, low]) ref →
      Meaning pool dispatch.opcode (high :: low :: more) (.invoke dispatch ref)
  | other {opcode : UInt8} {operands : List UInt8} :
      opcode < 0xb2 ∨ 0xb9 < opcode → Meaning pool opcode operands (.other opcode)

inductive CodeArray (pool : ConstantPool) : Nat → List UInt8 → List Instruction → Prop where
  | nil {pc : Nat} : CodeArray pool pc [] []
  | cons {pc : Nat} {opcode : UInt8} {operands rest : List UInt8} {instruction : Instruction}
      {instructions : List Instruction} :
      Shape pc opcode operands → Meaning pool opcode operands instruction →
      CodeArray pool (pc + (operands.length + 1)) rest instructions →
      CodeArray pool pc (opcode :: (operands ++ rest)) (instruction :: instructions)

section Members

variable {pool : ConstantPool} {pc : Nat} {opcode : UInt8} {body rest : List UInt8} {instruction : Instruction}

theorem memberUse?_eq_none_iff : memberUse? opcode = none ↔ opcode < 0xb2 ∨ 0xb9 < opcode := by
  rw [← Option.isNone_iff_eq_none]
  revert opcode
  apply forall_byte_of_table
  decide +kernel

theorem memberUse?_access (kind : FieldAccess) : memberUse? kind.opcode = some (.access kind) := by
  cases kind <;> rfl

theorem memberUse?_invoke (dispatch : Dispatch) : memberUse? dispatch.opcode = some (.invoke dispatch) := by
  cases dispatch <;> rfl

theorem exists_of_memberUse? {use : MemberRef → Instruction} (uses : memberUse? opcode = some use) :
    (∃ kind : FieldAccess, opcode = kind.opcode ∧ use = .access kind) ∨
      ∃ dispatch : Dispatch, opcode = dispatch.opcode ∧ use = .invoke dispatch := by
  unfold memberUse? at uses
  split_ifs at uses with getStatic putStatic getField putField virtual special static interface
  all_goals cases uses
  · exact .inl ⟨.getStatic, getStatic, rfl⟩
  · exact .inl ⟨.putStatic, putStatic, rfl⟩
  · exact .inl ⟨.getField, getField, rfl⟩
  · exact .inl ⟨.putField, putField, rfl⟩
  · exact .inr ⟨.virtual, virtual, rfl⟩
  · exact .inr ⟨.special, special, rfl⟩
  · exact .inr ⟨.static, static, rfl⟩
  · exact .inr ⟨.interface, interface, rfl⟩

theorem Shape.length_eq {count : Nat} (shape : Shape pc opcode body) (form : layout opcode = .fixed (count + 1)) :
    body.length = count := by
  have stated := shape.stated []
  simp only [statedLength, form, Except.ok.injEq] at stated
  omega

theorem Shape.access_operands {kind : FieldAccess} (shape : Shape pc kind.opcode body) :
    ∃ high low, body = [high, low] := by
  have form : layout kind.opcode = .fixed 3 := by cases kind <;> rfl
  exact List.length_eq_two.mp (shape.length_eq form)

theorem Shape.invoke_operands {dispatch : Dispatch} (shape : Shape pc dispatch.opcode body) :
    ∃ high low more, body = high :: low :: more := by
  have form : layout dispatch.opcode = .fixed 3 ∨ layout dispatch.opcode = .fixed 5 := by
    cases dispatch with
    | interface => exact .inr rfl
    | virtual | special | static => exact .inl rfl
  have enough : 2 ≤ body.length := by
    rcases form with short | long
    · have width := shape.length_eq short
      omega
    · have width := shape.length_eq long
      omega
  obtain ⟨index, more, rfl, width⟩ := exists_parts enough
  obtain ⟨high, low, rfl⟩ := List.length_eq_two.mp width
  exact ⟨high, low, more, rfl⟩

theorem resolve_eq_ok_iff (shape : Shape pc opcode body) :
    resolve pool opcode (body ++ rest) = .ok instruction ↔ Meaning pool opcode body instruction := by
  constructor
  · intro resolved
    cases uses : memberUse? opcode with
    | none =>
        simp only [resolve, uses] at resolved
        cases resolved
        exact .other (memberUse?_eq_none_iff.mp uses)
    | some use =>
        simp only [resolve, uses] at resolved
        obtain ⟨ref, found, made⟩ := bind_eq_ok_iff.mp resolved
        cases made
        rcases exists_of_memberUse? uses with ⟨kind, rfl, rfl⟩ | ⟨dispatch, rfl, rfl⟩
        -- the two bytes of the index belong to the instruction, not to what follows it
        · obtain ⟨high, low, rfl⟩ := shape.access_operands
          exact .access (ConstantPool.member_eq_ok_iff.mp found)
        · obtain ⟨high, low, more, rfl⟩ := shape.invoke_operands
          exact .invoke (ConstantPool.member_eq_ok_iff.mp found)
  · intro meaning
    cases meaning with
    | access refers =>
        simp only [resolve, memberUse?_access]
        exact bind_eq_ok_iff.mpr ⟨_, ConstantPool.member_eq_ok_iff.mpr refers, rfl⟩
    | invoke refers =>
        simp only [resolve, memberUse?_invoke]
        exact bind_eq_ok_iff.mpr ⟨_, ConstantPool.member_eq_ok_iff.mpr refers, rfl⟩
    | other outside => simp only [resolve, memberUse?_eq_none_iff.mpr outside]

end Members

section Arrays

variable {pool : ConstantPool} {pc : Nat} {code : List UInt8} {decoded : Array Instruction}
  {instructions : List Instruction}

theorem CodeArray.decodeFrom (array : CodeArray pool pc code instructions) (decoded : Array Instruction) :
    Code.decodeFrom pool pc code decoded = .ok (decoded ++ instructions.toArray) := by
  induction array generalizing decoded with
  | nil => rw [Code.decodeFrom, Array.append_empty]
  | @cons pc opcode operands rest instruction instructions shape meaning _ ih =>
      have complete : instructionLength pc opcode (operands ++ rest) = .ok (operands.length + 1) :=
        instructionLength_iff_shape.mpr ⟨operands, rest, rfl, rfl, shape⟩
      rw [Code.decodeFrom]
      refine bind_eq_ok_iff.mpr ⟨_, complete, bind_eq_ok_iff.mpr ⟨_, (resolve_eq_ok_iff shape).mpr meaning, ?_⟩⟩
      rw [Nat.add_sub_cancel, List.drop_left, ih]
      simp

theorem exists_codeArray {all : Array Instruction} (found : decodeFrom pool pc code decoded = .ok all) :
    ∃ instructions, CodeArray pool pc code instructions ∧ all = decoded ++ instructions.toArray := by
  fun_induction decodeFrom pool pc code decoded with
  | case1 =>
      cases found
      exact ⟨[], .nil, by simp⟩
  | case2 pc decoded opcode operands ih =>
      obtain ⟨length, complete, found⟩ := bind_eq_ok_iff.mp found
      obtain ⟨instruction, resolved, found⟩ := bind_eq_ok_iff.mp found
      obtain ⟨body, rest, rfl, rfl, shape⟩ := instructionLength_iff_shape.mp complete
      obtain ⟨instructions, array, rfl⟩ := ih _ _ found
      rw [Nat.add_sub_cancel, List.drop_left] at array
      exact ⟨instruction :: instructions, .cons shape ((resolve_eq_ok_iff shape).mp resolved) array, by simp⟩

theorem decode_eq_ok_iff : decode pool code = .ok instructions ↔ CodeArray pool 0 code instructions := by
  rw [decode, bind_eq_ok_iff]
  constructor
  · rintro ⟨all, found, listed⟩
    cases listed
    obtain ⟨instructions, array, rfl⟩ := exists_codeArray found
    simpa using array
  · intro array
    refine ⟨#[] ++ instructions.toArray, array.decodeFrom #[], ?_⟩
    simp [pure, Except.pure]

/-- The decoder as a loop over addresses, given up after a number of rounds. -/
def decodeWithin (pool : ConstantPool) (code : List UInt8) :
    Nat → Nat → Array Instruction → Option (Except FormatError (Array Instruction))
  | 0, pc, decoded => if code.length ≤ pc then some (.ok decoded) else none
  | rounds + 1, pc, decoded =>
      match code.drop pc with
      | [] => some (.ok decoded)
      | opcode :: operands =>
          match instructionLength pc opcode operands, resolve pool opcode operands with
          | .error reason, _ => some (.error reason)
          | .ok _, .error reason => some (.error reason)
          | .ok length, .ok instruction =>
              decodeWithin pool code rounds (pc + length) (decoded.push instruction)

theorem decodeWithin_eq {rounds : Nat} (enough : code.length - pc ≤ rounds) :
    decodeWithin pool code rounds pc decoded = some (decodeFrom pool pc (code.drop pc) decoded) := by
  induction rounds generalizing pc decoded with
  | zero =>
      have past : code.length ≤ pc := by omega
      rw [decodeWithin, if_pos past, List.drop_eq_nil_of_le past, decodeFrom]
  | succ rounds ih =>
      rw [decodeWithin]
      cases ahead : code.drop pc with
      | nil => rw [decodeFrom]
      | cons opcode operands =>
          have inside : pc < code.length := by
            have counted := congrArg List.length ahead
            rw [List.length_drop, List.length_cons] at counted
            omega
          rw [decodeFrom]
          cases complete : instructionLength pc opcode operands with
          | error reason => simp only [complete, bind, Except.bind]
          | ok length =>
              -- the round passes at least the opcode, so one round fewer is enough for what remains
              have positive := length_pos_of_stated (instructionLength_eq_ok_iff.mp complete).1
              have onward : operands.drop (length - 1) = code.drop (pc + length) := by
                obtain ⟨body, rfl⟩ := Nat.exists_eq_add_of_lt positive
                rw [← List.drop_drop, ahead]
                simp
              cases resolved : resolve pool opcode operands with
              | error reason => simp only [complete, resolved, bind, Except.bind]
              | ok instruction =>
                  simp only [complete, resolved, bind, Except.bind, onward]
                  apply ih
                  omega

theorem exists_shape_iff {opcode : UInt8} :
    (∃ operands, Shape pc opcode operands) ↔ opcode ≤ 0xca ∨ 0xfe ≤ opcode := by
  have defined : ∀ opcode : UInt8, layout opcode ≠ .undefined ↔ opcode ≤ 0xca ∨ 0xfe ≤ opcode := by
    apply forall_byte_of_table
    decide +kernel
  rw [← defined]
  constructor
  · rintro ⟨operands, shape⟩ undefined
    have stated := shape.stated []
    simp only [statedLength, undefined] at stated
    cases stated
  · intro known
    obtain ⟨table, lookup, wide, positive⟩ := @layout_iff opcode
    -- any operands will do: zeros, hence an offset for the number 0 alone, or no pairs
    have padLength : (List.replicate (padding pc) (0 : UInt8)).length = padding pc := List.length_replicate
    obtain ⟨short, aligned⟩ := padding_iff.mpr padLength
    have width : ([0, 0, 0, 0] : List UInt8).length = 4 := rfl
    have zero : signedValue [0, 0, 0, 0] = 0 := by decide
    cases form : layout opcode with
    | fixed length =>
        cases length with
        | zero => exact absurd form positive
        | succ count =>
            refine ⟨List.replicate count 0, .fixed ?_⟩
            rw [List.length_replicate]
            exact layout_eq_fixed_iff.mp form
    | tableSwitch =>
        rw [table.mp form]
        have offset : (([0, 0, 0, 0] : List UInt8).length : Int) =
            4 * (signedValue [0, 0, 0, 0] - signedValue [0, 0, 0, 0] + 1) := by
          rw [zero]
          rfl
        exact ⟨_, .tableSwitch short aligned width width width (Int.le_refl _) offset⟩
    | lookupSwitch =>
        rw [lookup.mp form]
        have none : (([] : List UInt8).length : Int) = 8 * signedValue [0, 0, 0, 0] := by
          rw [zero]
          rfl
        exact ⟨_, .lookupSwitch short aligned width width (Int.le_of_eq zero.symm) none⟩
    | wide =>
        rw [wide.mp form]
        exact ⟨_, .wideIncrement width⟩
    | undefined => exact absurd form known

/-- Decoding succeeds on the code arrays alone, with what each instruction means; it ends on every input, after at
most a round for each byte; and the opcodes of the grammar are those that are defined. -/
theorem decode_accepts_code_arrays (pool : ConstantPool) (code : List UInt8) :
    (∀ instructions, decode pool code = .ok instructions ↔ CodeArray pool 0 code instructions) ∧
      (decodeWithin pool code code.length 0 #[]).map (·.map Array.toList) = some (decode pool code) ∧
      ∀ pc opcode, (∃ operands, Shape pc opcode operands) ↔ opcode ≤ 0xca ∨ 0xfe ≤ opcode := by
  refine ⟨fun instructions => decode_eq_ok_iff, ?_, fun pc opcode => exists_shape_iff⟩
  rw [decodeWithin_eq (by omega), List.drop_zero, decode, Option.map_some]
  cases decodeFrom pool 0 code #[] <;> rfl

end Arrays

end Code

end ClassMetrics
