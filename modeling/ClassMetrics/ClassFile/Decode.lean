import ClassMetrics.ClassFile.Code

namespace ClassMetrics

namespace ClassFile

def skipAttributes : Nat → Reader Unit
  | 0 => pure ()
  | count + 1 => do
      Reader.skip 2
      Reader.skip (← Reader.u32)
      skipAttributes count

def readField (pool : ConstantPool) : Reader TypedName := do
  Reader.skip 2
  let name ← pool.text (← Reader.u16)
  let descriptor ← pool.text (← Reader.u16)
  skipAttributes (← Reader.u16)
  return { name, descriptor }

def readLocal (pool : ConstantPool) : Reader TypedName := do
  Reader.skip 2
  Reader.skip 2
  let name ← pool.text (← Reader.u16)
  let descriptor ← pool.text (← Reader.u16)
  Reader.skip 2
  return { name, descriptor }

/-- Attributes of a code attribute. A table of locals takes as many bytes as its entries need,
whatever length it states. -/
def readCodeAttributes (pool : ConstantPool) : Nat → Method → Reader Method
  | 0, method => pure method
  | count + 1, method => do
      let name ← pool.text (← Reader.u16)
      let length ← Reader.u32
      if name = "LocalVariableTable" then
        let locals ← Reader.times (← Reader.u16) (readLocal pool)
        readCodeAttributes pool count { method with locals := method.locals ++ locals }
      else
        Reader.skip length
        readCodeAttributes pool count method

def readCode (pool : ConstantPool) (method : Method) : Reader Method := do
  Reader.skip 2
  Reader.skip 2
  let code ← Reader.take (← Reader.u32)
  let instructions ← Code.decode pool code
  Reader.skip ((← Reader.u16) * 8)
  readCodeAttributes pool (← Reader.u16) { method with instructions }

/-- Attributes of a method. Of several code attributes the last gives the instructions, and the
locals of all of them are kept. -/
def readMethodAttributes (pool : ConstantPool) : Nat → Method → Reader Method
  | 0, method => pure method
  | count + 1, method => do
      let name ← pool.text (← Reader.u16)
      let length ← Reader.u32
      let start ← Reader.offset
      let body ← Reader.take length
      if name = "Code" then
        let method ← Reader.within start body (readCode pool method)
        readMethodAttributes pool count method
      else
        readMethodAttributes pool count method

def readMethod (pool : ConstantPool) : Reader Method := do
  Reader.skip 2
  let name ← pool.text (← Reader.u16)
  let descriptor ← pool.text (← Reader.u16)
  readMethodAttributes pool (← Reader.u16) { name, descriptor, instructions := [], locals := [] }

def magic : Nat := 0xCAFEBABE

def read : Reader ClassFile := do
  let found ← Reader.u32
  if found ≠ magic then
    throw (.badMagic found)
  Reader.skip 2
  Reader.skip 2
  let pool ← ConstantPool.read
  let accessFlags ← Reader.u16
  let name ← pool.className (← Reader.u16)
  let parent ← Reader.u16
  let superclass ← if parent = 0 then pure none else some <$> pool.className parent
  Reader.skip ((← Reader.u16) * 2)
  let fields ← Reader.times (← Reader.u16) (readField pool)
  let methods ← Reader.times (← Reader.u16) (readMethod pool)
  skipAttributes (← Reader.u16)
  return { name, superclass, accessFlags := UInt16.ofNat accessFlags, fields, methods }

/-- The class that the bytes store. -/
def decode (bytes : List UInt8) : Except FormatError ClassFile :=
  (read ⟨0, bytes⟩).map (·.1)

end ClassFile

end ClassMetrics
