import ClassMetrics.ClassFile.FormatError

namespace ClassMetrics

/-!
Big-endian reading. A cursor holds the bytes not yet read and where they start in the file. Every read
goes through `Reader.take`, the only place where data can run out.
-/

structure Cursor where
  offset : Nat
  rest : List UInt8
deriving Repr

abbrev Reader := StateT Cursor (Except FormatError)

/-- The number that the bytes spell, most significant byte first. -/
def bigEndian (bytes : List UInt8) : Nat :=
  bytes.foldl (fun value byte => value * 256 + byte.toNat) 0

namespace Reader

def take (count : Nat) : Reader (List UInt8) := fun cursor =>
  let chunk := cursor.rest.take count
  if chunk.length = count then
    .ok (chunk, ⟨cursor.offset + count, cursor.rest.drop count⟩)
  else
    .error (.truncated (cursor.offset + count))

def skip (count : Nat) : Reader Unit := do
  let _ ← take count

def unsigned (width : Nat) : Reader Nat := do
  return bigEndian (← take width)

def u8 : Reader Nat := unsigned 1

def u16 : Reader Nat := unsigned 2

def u32 : Reader Nat := unsigned 4

def offset : Reader Nat := do
  return (← get).offset

/-- Runs a reader on bytes of their own, which start at `start` in the file. What it leaves unread is
dropped, and the outer cursor stays where it is. -/
def within {α : Type} (start : Nat) (bytes : List UInt8) (inner : Reader α) : Reader α := fun cursor =>
  match inner ⟨start, bytes⟩ with
  | .ok (value, _) => .ok (value, cursor)
  | .error reason => .error reason

/-- Reads `count` items after those in `items`. -/
def collect {α : Type} (item : Reader α) : Nat → Array α → Reader (Array α)
  | 0, items => pure items
  | count + 1, items => do
      let next ← item
      collect item count (items.push next)

/-- Items in the order in which they are stored. -/
def times {α : Type} (count : Nat) (item : Reader α) : Reader (List α) := do
  return (← collect item count #[]).toList

end Reader

end ClassMetrics
