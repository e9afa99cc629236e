import ClassMetrics.Text.Quoted

namespace ClassMetrics

/-- What an index into the constant pool was expected to name. -/
inductive ConstantKind where
  | text
  | classRef
  | memberRef
  | nameAndType
deriving Repr, DecidableEq

def ConstantKind.label : ConstantKind → String
  | .text => "Utf8"
  | .classRef => "Class"
  | .memberRef => "member reference"
  | .nameAndType => "NameAndType"

inductive FormatError where
  | badMagic (found : Nat)
  /-- The data ends before `offset`, where a read would have ended. -/
  | truncated (offset : Nat)
  | invalidConstantIndex (index : Nat)
  /-- A constant of two slots starts at the last slot of the pool. -/
  | wideConstantOverflow (index : Nat)
  | unknownConstantTag (tag index : Nat)
  | unexpectedConstant (index : Nat) (expected : ConstantKind)
  | invalidText
  | invalidDescriptor (descriptor : String)
  | invalidInstruction (opcode : UInt8) (pc : Nat)
deriving Repr, DecidableEq

def FormatError.message : FormatError → String
  | .badMagic found => s!"bad magic number 0x{Text.hexUpper 8 found}"
  | .truncated offset => s!"unexpected end of data at offset {offset}"
  | .invalidConstantIndex index => s!"invalid constant pool index {index}"
  | .wideConstantOverflow index =>
      s!"8-byte constant at index {index} runs past the end of the constant pool"
  | .unknownConstantTag tag index => s!"unknown constant pool tag {tag} at index {index}"
  | .unexpectedConstant index expected => s!"constant {index} is not a {expected.label}"
  | .invalidText => "invalid modified UTF-8 string"
  | .invalidDescriptor descriptor => s!"invalid descriptor: {descriptor}"
  | .invalidInstruction opcode pc => s!"invalid opcode 0x{Text.hex 2 opcode.toNat} at pc {pc}"

end ClassMetrics
