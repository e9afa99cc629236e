namespace ClassMetrics

/-!
Patterns for paths. A part of a pattern is understood by the rests that it can leave of a text; a sequence of
parts matches if it can leave nothing. Main definition: `Pattern.covers`. Texts are bytes, so one `?` takes one
byte of a longer character.
-/

inductive PatternPart where
  | literal (mark : Char)
  /-- One byte, also a slash. -/
  | any
  /-- Any number of bytes, slashes too. -/
  | anyRun
  /-- No directory or any number of them, before all else. -/
  | leadingDirectories
  /-- A slash and all below it. -/
  | allBelow
  /-- A slash, or two with anything between them. -/
  | innerDirectories
  | oneOf (negated : Bool) (ranges : List (Char × Char))
  | choice (branches : List (List PatternPart))
deriving Repr

structure Pattern where
  parts : List PatternPart
deriving Repr

namespace Pattern

def slash : UInt8 := 47

def bytesOf (mark : Char) : List UInt8 := (String.singleton mark).toUTF8.toList

/-- What is left of a text once its beginning is taken away. -/
def after? (start text : List UInt8) : Option (List UInt8) :=
  if start.isPrefixOf text then some (text.drop start.length) else none

/-- A text, and what is left of it after one byte, two bytes and so on. -/
def suffixes : List UInt8 → List (List UInt8)
  | [] => [[]]
  | byte :: rest => (byte :: rest) :: suffixes rest

/-- What stands after a slash, for every slash. -/
def afterSlashes : List UInt8 → List (List UInt8)
  | [] => []
  | byte :: rest => if byte = slash then rest :: afterSlashes rest else afterSlashes rest

/-- The bytes of a range of characters: its ends byte by byte, and all bytes between the last one of the
first character and the first one of the second. -/
def rangeHolds (range : Char × Char) (byte : UInt8) : Bool :=
  let low := bytesOf range.1
  let high := bytesOf range.2
  if range.1 = range.2 then low.contains byte
  else
    low.contains byte || high.contains byte ||
      (low.getLast?.getD 0 ≤ byte && byte ≤ high.head?.getD 0)

mutual

/-- A part that asks for nothing: a choice without a branch that asks for something. -/
def isVoid : PatternPart → Bool
  | .choice branches => allBranchesVoid branches
  | _ => false

def isVoidSequence : List PatternPart → Bool
  | [] => true
  | part :: rest => isVoid part && isVoidSequence rest

def allBranchesVoid : List (List PatternPart) → Bool
  | [] => true
  | branch :: rest => isVoidSequence branch && allBranchesVoid rest

end

mutual

/-- The rests that a part can leave of a text. -/
def partRests (text : List UInt8) : PatternPart → List (List UInt8)
  | .literal mark => (after? (bytesOf mark) text).toList
  | .any => (text.tail?).toList
  | .anyRun => suffixes text
  | .leadingDirectories => text :: afterSlashes text
  | .allBelow =>
      match text with
      | byte :: rest => if byte = slash then suffixes rest else []
      | [] => []
  | .innerDirectories =>
      match text with
      | byte :: rest => if byte = slash then rest :: afterSlashes rest else []
      | [] => []
  | .oneOf negated ranges =>
      match text with
      | byte :: rest => if (ranges.any fun range => rangeHolds range byte) != negated then [rest] else []
      | [] => []
  | .choice branches => if allBranchesVoid branches then [text] else branchRests text branches

/-- The rests that parts in sequence can leave of a text. -/
def sequenceRests (texts : List (List UInt8)) : List PatternPart → List (List UInt8)
  | [] => texts
  | part :: rest => sequenceRests (texts.flatMap fun text => partRests text part).eraseDups rest

/-- Branches that ask for nothing are left out. -/
def branchRests (text : List UInt8) : List (List PatternPart) → List (List UInt8)
  | [] => []
  | branch :: rest =>
      if isVoidSequence branch then branchRests text rest
      else sequenceRests [text] branch ++ branchRests text rest

end

/-- Whether a pattern covers a whole path. -/
def covers (pattern : Pattern) (path : String) : Bool :=
  match pattern.parts with
  | [.leadingDirectories] => true
  | parts => (sequenceRests [path.toUTF8.toList] parts).contains []

end Pattern

end ClassMetrics
