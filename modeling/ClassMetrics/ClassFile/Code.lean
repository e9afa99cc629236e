import ClassMetrics.ClassFile.ConstantPool

namespace ClassMetrics

/-!
Code arrays. An instruction is an opcode and its operands; how many bytes these take is fixed by the
opcode, except for the two switches and for `wide`. Main definition: `Code.decode`.
-/

/-- How the length of an instruction is found. -/
inductive Layout where
  | fixed (length : Nat)
  | tableSwitch
  | lookupSwitch
  | wide
  | undefined
deriving Repr, DecidableEq

namespace Code

def iinc : UInt8 := 0x84

def layout (opcode : UInt8) : Layout :=
  if opcode ≤ 0x0f then .fixed 1
  else if opcode = 0x10 then .fixed 2
  else if opcode = 0x11 then .fixed 3
  else if opcode = 0x12 then .fixed 2
  else if opcode ≤ 0x14 then .fixed 3
  else if opcode ≤ 0x19 then .fixed 2
  else if opcode ≤ 0x35 then .fixed 1
  else if opcode ≤ 0x3a then .fixed 2
  else if opcode ≤ 0x83 then .fixed 1
  else if opcode = iinc then .fixed 3
  else if opcode ≤ 0x98 then .fixed 1
  else if opcode ≤ 0xa8 then .fixed 3
  else if opcode = 0xa9 then .fixed 2
  else if opcode = 0xaa then .tableSwitch
  else if opcode = 0xab then .lookupSwitch
  else if opcode ≤ 0xb1 then .fixed 1
  else if opcode ≤ 0xb8 then .fixed 3
  else if opcode ≤ 0xba then .fixed 5
  else if opcode = 0xbb then .fixed 3
  else if opcode = 0xbc then .fixed 2
  else if opcode = 0xbd then .fixed 3
  else if opcode ≤ 0xbf then .fixed 1
  else if opcode ≤ 0xc1 then .fixed 3
  else if opcode ≤ 0xc3 then .fixed 1
  else if opcode = 0xc4 then .wide
  else if opcode = 0xc5 then .fixed 4
  else if opcode ≤ 0xc7 then .fixed 3
  else if opcode ≤ 0xc9 then .fixed 5
  else if opcode = 0xca ∨ opcode = 0xfe ∨ opcode = 0xff then .fixed 1
  else .undefined

/-- Bytes between a switch opcode at `pc` and its operands, which start at a multiple of four. -/
def padding (pc : Nat) : Nat := (4 - (pc + 1) % 4) % 4

/-- The signed four-byte number `skipped` bytes into `operands`, which start at `start`. -/
def signed32 (start : Nat) (operands : List UInt8) (skipped : Nat) : Except FormatError Int :=
  let bytes := (operands.drop skipped).take 4
  if bytes.length = 4 then
    let value := bigEndian bytes
    .ok (if value < 0x80000000 then value else (value : Int) - 0x100000000)
  else
    .error (.truncated (start + skipped + 4))

/-- Length by layout alone, whether or not that many bytes are there. -/
def statedLength (pc : Nat) (opcode : UInt8) (operands : List UInt8) : Except FormatError Nat :=
  match layout opcode with
  | .fixed length => .ok length
  | .tableSwitch => do
      let low ← signed32 (pc + 1) operands (padding pc + 4)
      let high ← signed32 (pc + 1) operands (padding pc + 8)
      if high < low then
        throw (.invalidInstruction opcode pc)
      return 1 + padding pc + 12 + (high - low + 1).toNat * 4
  | .lookupSwitch => do
      let pairs ← signed32 (pc + 1) operands (padding pc + 4)
      if pairs < 0 then
        throw (.invalidInstruction opcode pc)
      return 1 + padding pc + 8 + pairs.toNat * 8
  | .wide =>
      match operands with
      | [] => .error (.truncated (pc + 1))
      | widened :: _ => .ok (if widened = iinc then 6 else 4)
  | .undefined => .error (.invalidInstruction opcode pc)

/-- Length of the instruction at `pc`, all of whose bytes are present. -/
def instructionLength (pc : Nat) (opcode : UInt8) (operands : List UInt8) : Except FormatError Nat := do
  let length ← statedLength pc opcode operands
  if (operands.take (length - 1)).length + 1 < length then
    throw (.truncated (pc + length))
  return length

/-- What an opcode does with the member that its operand names. -/
def memberUse? (opcode : UInt8) : Option (MemberRef → Instruction) :=
  if opcode = 0xb2 then some (.access .getStatic)
  else if opcode = 0xb3 then some (.access .putStatic)
  else if opcode = 0xb4 then some (.access .getField)
  else if opcode = 0xb5 then some (.access .putField)
  else if opcode = 0xb6 then some (.invoke .virtual)
  else if opcode = 0xb7 then some (.invoke .special)
  else if opcode = 0xb8 then some (.invoke .static)
  else if opcode = 0xb9 then some (.invoke .interface)
  else none

def resolve (pool : ConstantPool) (opcode : UInt8) (operands : List UInt8) :
    Except FormatError Instruction :=
  match memberUse? opcode with
  | some use => do return use (← pool.member (bigEndian (operands.take 2)))
  | none => .ok (.other opcode)

/-- Decodes `code`, whose first byte is at `pc`, after the instructions in `decoded`. -/
def decodeFrom (pool : ConstantPool) (pc : Nat) (code : List UInt8) (decoded : Array Instruction) :
    Except FormatError (Array Instruction) :=
  match code with
  | [] => .ok decoded
  | opcode :: operands => do
      let length ← instructionLength pc opcode operands
      let instruction ← resolve pool opcode operands
      decodeFrom pool (pc + length) (operands.drop (length - 1)) (decoded.push instruction)
termination_by code.length
decreasing_by
  simp only [List.length_drop, List.length_cons]
  omega

def decode (pool : ConstantPool) (code : List UInt8) : Except FormatError (List Instruction) := do
  return (← decodeFrom pool 0 code #[]).toList

end Code

end ClassMetrics
