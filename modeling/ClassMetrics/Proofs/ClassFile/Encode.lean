import ClassMetrics.ClassFile.Decode

namespace ClassMetrics

/-- The lowest bytes of a number, most significant byte first. -/
def bigEndianBytes : Nat → Nat → List UInt8
  | 0, _ => []
  | width + 1, value => bigEndianBytes width (value / 256) ++ [UInt8.ofNat value]

abbrev u16Bytes (value : Nat) : List UInt8 := bigEndianBytes 2 value

abbrev u32Bytes (value : Nat) : List UInt8 := bigEndianBytes 4 value

/-- What a member reference refers to. -/
inductive MemberKind where
  | field
  | method
  | interfaceMethod
deriving Repr, DecidableEq

def MemberKind.tag : MemberKind → UInt8
  | .field => 9
  | .method => 10
  | .interfaceMethod => 11

/-- A constant to be written. References are slot numbers. -/
inductive PoolEntry where
  | text (value : String)
  | classRef (name : UInt16)
  | nameAndType (name descriptor : UInt16)
  | memberRef (kind : MemberKind) (owner signature : UInt16)
deriving Repr, DecidableEq

def textBytes (value : String) : List UInt8 := value.toUTF8.data.toList

namespace PoolEntry

def tag : PoolEntry → UInt8
  | .text _ => 1
  | .classRef _ => 7
  | .nameAndType _ _ => 12
  | .memberRef kind _ _ => kind.tag

def payload : PoolEntry → List UInt8
  | .text value => u16Bytes (textBytes value).length ++ textBytes value
  | .classRef name => u16Bytes name.toNat
  | .nameAndType name descriptor => u16Bytes name.toNat ++ u16Bytes descriptor.toNat
  | .memberRef _ owner signature => u16Bytes owner.toNat ++ u16Bytes signature.toNat

def encode (entry : PoolEntry) : List UInt8 := [entry.tag] ++ entry.payload

end PoolEntry

/-- Writes with the constants so far at hand; the entry at position zero has slot one. -/
abbrev PoolWriter := StateM (List PoolEntry)

namespace PoolWriter

/-- The slot of a constant, a new one if the constant is new. -/
def intern (entry : PoolEntry) : PoolWriter UInt16 := fun pool =>
  match pool.idxOf? entry with
  | some position => (UInt16.ofNat (position + 1), pool)
  | none => (UInt16.ofNat (pool.length + 1), pool ++ [entry])

def text (value : String) : PoolWriter UInt16 := intern (.text value)

def className (name : String) : PoolWriter UInt16 := do
  let nameSlot ← text name
  intern (.classRef nameSlot)

def nameAndType (name descriptor : String) : PoolWriter UInt16 := do
  let nameSlot ← text name
  let descriptorSlot ← text descriptor
  intern (.nameAndType nameSlot descriptorSlot)

def member (kind : MemberKind) (ref : MemberRef) : PoolWriter UInt16 := do
  let ownerSlot ← className ref.owner
  let signatureSlot ← nameAndType ref.name ref.descriptor
  intern (.memberRef kind ownerSlot signatureSlot)

/-- Writes items one after another. -/
def each {α : Type} (write : α → PoolWriter (List UInt8)) : List α → PoolWriter (List UInt8)
  | [] => pure []
  | item :: rest => do
      let first ← write item
      let others ← each write rest
      return first ++ others

end PoolWriter

def FieldAccess.opcode : FieldAccess → UInt8
  | .getStatic => 0xb2
  | .putStatic => 0xb3
  | .getField => 0xb4
  | .putField => 0xb5

def Dispatch.opcode : Dispatch → UInt8
  | .virtual => 0xb6
  | .special => 0xb7
  | .static => 0xb8
  | .interface => 0xb9

/-- An interface call has two more operand bytes: the number of arguments and zero. -/
def Dispatch.operandTail : Dispatch → List UInt8
  | .interface => [1, 0]
  | _ => []

def Dispatch.memberKind : Dispatch → MemberKind
  | .interface => .interfaceMethod
  | _ => .method

def Instruction.encode : Instruction → PoolWriter (List UInt8)
  | .access kind field => do
      let slot ← PoolWriter.member .field field
      return [kind.opcode] ++ u16Bytes slot.toNat
  | .invoke dispatch method => do
      let slot ← PoolWriter.member dispatch.memberKind method
      return [dispatch.opcode] ++ u16Bytes slot.toNat ++ dispatch.operandTail
  | .other opcode => return [opcode]

/-- A field without attributes. -/
def encodeField (field : TypedName) : PoolWriter (List UInt8) := do
  let name ← PoolWriter.text field.name
  let descriptor ← PoolWriter.text field.descriptor
  return u16Bytes 1 ++ u16Bytes name.toNat ++ u16Bytes descriptor.toNat ++ u16Bytes 0

namespace Method

/-- Entries of the table of locals from a slot on; each local is live in all of the code. -/
def encodeLocals (codeLength : Nat) : Nat → List TypedName → PoolWriter (List UInt8)
  | _, [] => pure []
  | slot, entry :: rest => do
      let name ← PoolWriter.text entry.name
      let descriptor ← PoolWriter.text entry.descriptor
      let others ← encodeLocals codeLength (slot + 1) rest
      return u16Bytes 0 ++ u16Bytes codeLength ++ u16Bytes name.toNat ++
        u16Bytes descriptor.toNat ++ u16Bytes slot ++ others

/-- The attributes of the code: a table of locals if there are any. -/
def encodeCodeAttributes (codeLength : Nat) (locals : List TypedName) : PoolWriter (List UInt8) :=
  if locals.isEmpty then
    return u16Bytes 0
  else do
    let name ← PoolWriter.text "LocalVariableTable"
    let entries ← encodeLocals codeLength 0 locals
    return u16Bytes 1 ++ u16Bytes name.toNat ++ u32Bytes (2 + 10 * locals.length) ++
      u16Bytes locals.length ++ entries

/-- What the code attribute of a method holds. -/
def encodeCode (method : Method) : PoolWriter (List UInt8) := do
  let code ← PoolWriter.each Instruction.encode method.instructions
  let attributes ← encodeCodeAttributes code.length method.locals
  return u16Bytes 8 ++ u16Bytes 8 ++ u32Bytes code.length ++ code ++ u16Bytes 0 ++ attributes

def hasCode (method : Method) : Bool :=
  !method.instructions.isEmpty || !method.locals.isEmpty

def encodeAttributes (method : Method) : PoolWriter (List UInt8) :=
  if method.hasCode then do
    let body ← method.encodeCode
    let name ← PoolWriter.text "Code"
    return u16Bytes 1 ++ u16Bytes name.toNat ++ u32Bytes body.length ++ body
  else
    return u16Bytes 0

/-- A method without code is abstract. -/
def encode (method : Method) : PoolWriter (List UInt8) := do
  let name ← PoolWriter.text method.name
  let descriptor ← PoolWriter.text method.descriptor
  let attributes ← method.encodeAttributes
  return u16Bytes (if method.hasCode then 0x0001 else 0x0401) ++ u16Bytes name.toNat ++
    u16Bytes descriptor.toNat ++ attributes

end Method

namespace ClassFile

/-- Slot zero stands for no superclass. -/
def encodeSuperclass : Option String → PoolWriter UInt16
  | none => pure 0
  | some name => PoolWriter.className name

/-- All that follows the constants. -/
def encodeBody (classFile : ClassFile) : PoolWriter (List UInt8) := do
  let name ← PoolWriter.className classFile.name
  let parent ← encodeSuperclass classFile.superclass
  let fields ← PoolWriter.each encodeField classFile.fields
  let methods ← PoolWriter.each Method.encode classFile.methods
  return u16Bytes classFile.accessFlags.toNat ++ u16Bytes name.toNat ++ u16Bytes parent.toNat ++
    u16Bytes 0 ++ u16Bytes classFile.fields.length ++ fields ++ u16Bytes classFile.methods.length ++
    methods ++ u16Bytes 0

/-- The constants that the class needs, by slot. -/
def constants (classFile : ClassFile) : List PoolEntry := (classFile.encodeBody []).2

def encode (classFile : ClassFile) : List UInt8 :=
  u32Bytes magic ++ u16Bytes 0 ++ u16Bytes 52 ++ u16Bytes (classFile.constants.length + 1) ++
    classFile.constants.flatMap PoolEntry.encode ++ (classFile.encodeBody []).1

end ClassFile

end ClassMetrics
