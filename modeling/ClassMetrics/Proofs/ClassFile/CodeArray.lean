import ClassMetrics.Proofs.ClassFile.Constants

namespace ClassMetrics

/-- The opcodes that stand alone, in order. -/
def isOneByte (opcode : UInt8) : Bool :=
  opcode ≤ 0x0f || (0x1a ≤ opcode && opcode ≤ 0x35) || (0x3b ≤ opcode && opcode ≤ 0x83) ||
    (0x85 ≤ opcode && opcode ≤ 0x98) || (0xac ≤ opcode && opcode ≤ 0xb1) ||
    (0xbe ≤ opcode && opcode ≤ 0xbf) || (0xc2 ≤ opcode && opcode ≤ 0xc3) || opcode == 0xca ||
    0xfe ≤ opcode

theorem isOneByte_iff (opcode : UInt8) : isOneByte opcode = true ↔ Code.layout opcode = .fixed 1 := by
  revert opcode
  apply forall_byte_of_table
  decide +kernel

theorem memberUse?_of_isOneByte {opcode : UInt8} (alone : isOneByte opcode = true) :
    Code.memberUse? opcode = none := by
  rw [← Option.isNone_iff_eq_none]
  revert opcode
  apply forall_byte_of_table
  decide +kernel

namespace Instruction

/-- Number of bytes that an instruction takes. -/
def size : Instruction → Nat
  | .invoke .interface _ => 5
  | .invoke _ _ => 3
  | .access _ _ => 3
  | .other _ => 1

def totalSize : List Instruction → Nat
  | [] => 0
  | instruction :: rest => instruction.size + totalSize rest

/-- Of the instructions without a member, only those of one byte keep all they have. -/
def Plain : Instruction → Prop
  | .other opcode => isOneByte opcode = true
  | _ => True

instance : DecidablePred Plain
  | .other opcode => inferInstanceAs (Decidable (isOneByte opcode = true))
  | .invoke _ _ | .access _ _ => isTrue trivial

end Instruction

namespace Code

/-- The bytes are the instructions, to be decoded after any others and before any code. -/
def Decodes (pool : ConstantPool) (bytes : List UInt8) (instructions : List Instruction) : Prop :=
  ∀ pc rest decoded, decodeFrom pool pc (bytes ++ rest) decoded =
    decodeFrom pool (pc + bytes.length) rest (decoded ++ instructions.toArray)

namespace Decodes

variable {pool : ConstantPool} {bytes more : List UInt8} {instruction : Instruction}
  {instructions : List Instruction}

theorem nil : Decodes pool [] [] := by
  intro pc rest decoded
  simp

theorem cons (first : Decodes pool bytes [instruction]) (others : Decodes pool more instructions) :
    Decodes pool (bytes ++ more) (instruction :: instructions) := by
  intro pc rest decoded
  rw [List.append_assoc, first, others, List.length_append, Nat.add_assoc]
  simp

theorem single {opcode : UInt8} {operands : List UInt8}
    (fixed : layout opcode = .fixed (operands.length + 1))
    (resolved : ∀ rest, resolve pool opcode (operands ++ rest) = .ok instruction) :
    Decodes pool (opcode :: operands) [instruction] := by
  intro pc rest decoded
  have complete : instructionLength pc opcode (operands ++ rest) = .ok (operands.length + 1) := by
    simp [instructionLength, statedLength, fixed, bind, Except.bind, pure, Except.pure]
  rw [List.cons_append, decodeFrom, complete, resolved]
  simp [bind, Except.bind]

theorem decode (decodes : Decodes pool bytes instructions) :
    Code.decode pool bytes = .ok instructions := by
  have whole := decodes 0 [] #[]
  rw [List.append_nil, decodeFrom.eq_1] at whole
  simp [Code.decode, whole, bind, Except.bind, pure, Except.pure]

/-- A member instruction: the operand that counts is the slot, and others may follow it. -/
theorem member {opcode : UInt8} {slot : UInt16} {tail : List UInt8} {ref : MemberRef}
    {use : MemberRef → Instruction} (fixed : layout opcode = .fixed (tail.length + 3))
    (uses : memberUse? opcode = some use) (found : pool.member slot.toNat = .ok ref) :
    Decodes pool (opcode :: (u16Bytes slot.toNat ++ tail)) [use ref] := by
  have width := length_bigEndianBytes 2 slot.toNat
  refine single ?_ fun rest => ?_
  · rw [fixed, List.length_append, width]
    congr 1
    omega
  · have operand : bigEndian ((u16Bytes slot.toNat ++ tail ++ rest).take 2) = slot.toNat := by
      rw [List.append_assoc, List.take_left' width, bigEndian_bytes slot.toNat_lt]
    simp only [resolve, uses, operand, found, bind, Except.bind, pure, Except.pure]

end Decodes

end Code

theorem yields_instruction {instruction : Instruction} (plain : instruction.Plain) :
    Yields instruction.encode fun bytes final =>
      Code.Decodes (storedPool final) bytes [instruction] ∧ bytes.length = instruction.size := by
  cases instruction with
  | invoke dispatch method =>
      refine (yields_member _ method).bind fun slot => .pure fun final _ found => ?_
      constructor
      · cases dispatch <;> exact Code.Decodes.member rfl rfl found
      · cases dispatch <;> rfl
  | access kind field =>
      refine (yields_member _ field).bind fun slot => .pure fun final _ found => ?_
      constructor
      · have decodes : Code.Decodes (storedPool final) (kind.opcode :: (u16Bytes slot.toNat ++ []))
            [.access kind field] := by
          cases kind <;> exact Code.Decodes.member rfl rfl found
        simpa using decodes
      · rfl
  | other opcode =>
      refine .pure fun final _ => ⟨?_, rfl⟩
      refine Code.Decodes.single ((isOneByte_iff opcode).mp plain) fun rest => ?_
      rw [Code.resolve, memberUse?_of_isOneByte plain]

theorem yields_code {instructions : List Instruction}
    (plain : ∀ instruction ∈ instructions, instruction.Plain) :
    Yields (PoolWriter.each Instruction.encode instructions) fun bytes final =>
      Code.Decodes (storedPool final) bytes instructions ∧
        bytes.length = Instruction.totalSize instructions := by
  let decoded (instructions : List Instruction) (bytes : List UInt8) (final : List PoolEntry) :=
    Code.Decodes (storedPool final) bytes instructions ∧
      bytes.length = Instruction.totalSize instructions
  refine Yields.each decoded (fun final => ⟨.nil, rfl⟩) ?_
    fun instruction member => yields_instruction (plain instruction member)
  intro instruction rest bytes more final first others
  refine ⟨first.1.cons others.1, ?_⟩
  simp [Instruction.totalSize, first.2, others.2]

end ClassMetrics
