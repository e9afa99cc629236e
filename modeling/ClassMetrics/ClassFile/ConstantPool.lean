import ClassMetrics.ClassFile.Basic
import ClassMetrics.ClassFile.ModifiedUtf8
import ClassMetrics.ClassFile.Reader

namespace ClassMetrics

/-- Indices point back into the pool and are resolved on use. -/
inductive Constant where
  | text (value : String)
  | classRef (name : Nat)
  | memberRef (owner nameAndType : Nat)
  | nameAndType (name descriptor : Nat)
  | other
deriving Repr, DecidableEq

structure ConstantPool where
  slots : Array (Option Constant)
deriving Repr, DecidableEq

namespace ConstantPool

def constant (pool : ConstantPool) (index : Nat) : Except FormatError Constant :=
  match pool.slots[index]? with
  | some (some found) => .ok found
  | _ => .error (.invalidConstantIndex index)

def text (pool : ConstantPool) (index : Nat) : Except FormatError String := do
  match ← pool.constant index with
  | .text value => return value
  | _ => throw (.unexpectedConstant index .text)

def className (pool : ConstantPool) (index : Nat) : Except FormatError String := do
  match ← pool.constant index with
  | .classRef name => pool.text name
  | _ => throw (.unexpectedConstant index .classRef)

def nameAndType (pool : ConstantPool) (index : Nat) : Except FormatError (Nat × Nat) := do
  match ← pool.constant index with
  | .nameAndType name descriptor => return (name, descriptor)
  | _ => throw (.unexpectedConstant index .nameAndType)

def member (pool : ConstantPool) (index : Nat) : Except FormatError MemberRef := do
  match ← pool.constant index with
  | .memberRef owner signature =>
      let (name, descriptor) ← pool.nameAndType signature
      return {
        owner := ← pool.className owner
        name := ← pool.text name
        descriptor := ← pool.text descriptor }
  | _ => throw (.unexpectedConstant index .memberRef)

end ConstantPool

/-- Eight-byte numbers take two slots. -/
def Constant.isWide (tag : Nat) : Bool := tag == 5 || tag == 6

/-- Reads the payload of a constant that takes one slot; `index` is that slot. -/
def Constant.read (tag index : Nat) : Reader Constant := do
  match tag with
  | 1 =>
      let bytes ← Reader.take (← Reader.u16)
      match ModifiedUtf8.decode? bytes with
      | some value => return .text value
      | none => throw .invalidText
  | 3 | 4 | 17 | 18 =>
      Reader.skip 4
      return .other
  | 7 => return .classRef (← Reader.u16)
  | 8 | 16 | 19 | 20 =>
      Reader.skip 2
      return .other
  | 9 | 10 | 11 => return .memberRef (← Reader.u16) (← Reader.u16)
  | 12 => return .nameAndType (← Reader.u16) (← Reader.u16)
  | 15 =>
      Reader.skip 3
      return .other
  | _ => throw (.unknownConstantTag tag index)

/-- Fills the slots from `slots.size` up to `count`. -/
def ConstantPool.readSlots (count : Nat) (slots : Array (Option Constant)) :
    Reader (Array (Option Constant)) := do
  if slots.size < count then
    let tag ← Reader.u8
    if Constant.isWide tag then
      if slots.size + 1 < count then
        Reader.skip 8
        readSlots count (slots.push (some .other) |>.push none)
      else
        throw (.wideConstantOverflow slots.size)
    else
      let constant ← Constant.read tag slots.size
      readSlots count (slots.push (some constant))
  else
    return slots
termination_by count - slots.size
decreasing_by
  · simp only [Array.size_push]; omega
  · simp only [Array.size_push]; omega

def ConstantPool.read : Reader ConstantPool := do
  let count ← Reader.u16
  return ⟨← ConstantPool.readSlots count #[none]⟩

end ClassMetrics
