import ClassMetrics.Decimal.Shortest
import ClassMetrics.Text.Quoted
import ClassMetrics.Value.Basic

namespace ClassMetrics

/-- Where the notation of a float changes: exponents of the leading digit from `plainFrom` on and below
`plainBelow` are written without an exponent. -/
structure FloatNotation where
  plainFrom : Int
  plainBelow : Int

/-- JSON floats are plain from `1e-5` on and below `1e16`, and always show a fraction there. -/
def Value.floatNotation : FloatNotation := ⟨-5, 16⟩

namespace FloatNotation

/-- The digits with a point after the first `whole` of them, zeros being filled in on either side. -/
def plain (digits : List Char) (whole : Int) : List Char :=
  if whole ≤ 0 then
    ['0', '.'] ++ List.replicate (-whole).toNat '0' ++ digits
  else if digits.length ≤ whole.toNat then
    digits ++ List.replicate (whole.toNat - digits.length) '0' ++ ['.', '0']
  else
    digits.take whole.toNat ++ ['.'] ++ digits.drop whole.toNat

/-- One digit, the others after a point, and a signed exponent. -/
def scientific (digits : List Char) (exponent : Int) : List Char :=
  let fraction := if digits.length ≤ 1 then [] else '.' :: digits.drop 1
  let sign := if exponent < 0 then '-' else '+'
  digits.take 1 ++ fraction ++ ['e', sign] ++ Nat.toDigits 10 exponent.natAbs

def render (style : FloatNotation) (negative : Bool) (number : Decimal.Scientific) : String :=
  let digits := Nat.toDigits 10 number.digits
  let leading := number.exponent + digits.length - 1
  let magnitude :=
    if style.plainFrom ≤ leading ∧ leading < style.plainBelow then plain digits (leading + 1)
    else scientific digits leading
  String.ofList (if negative then '-' :: magnitude else magnitude)

end FloatNotation

namespace Value

/-- JSON has no text for infinities, which are written as null. -/
def floatText (number : Float) : String :=
  match Decimal.Binary.ofFloat? number with
  | some exact => floatNotation.render exact.negative (Decimal.shortest exact)
  | none => "null"

def escapeChar (mark : Char) : List Char :=
  if mark = '"' then ['\\', '"']
  else if mark = '\\' then ['\\', '\\']
  else if mark = '\x08' then ['\\', 'b']
  else if mark = '\x0c' then ['\\', 'f']
  else if mark = '\n' then ['\\', 'n']
  else if mark = '\r' then ['\\', 'r']
  else if mark = '\t' then ['\\', 't']
  else if mark.toNat < 0x20 then ['\\', 'u'] ++ (Text.hex 4 mark.toNat).toList
  else [mark]

def quoted (text : String) : String :=
  String.ofList (['"'] ++ text.toList.flatMap escapeChar ++ ['"'])

mutual

def compact : Value → String
  | .null => "null"
  | .bool value => if value then "true" else "false"
  | .int value => toString value
  | .float value => floatText value
  | .text value => quoted value
  | .list items => "[" ++ ",".intercalate (compactItems items) ++ "]"
  | .record fields => "\x7b" ++ ",".intercalate (compactFields fields) ++ "\x7d"

def compactItems : List Value → List String
  | [] => []
  | item :: rest => item.compact :: compactItems rest

def compactFields : List (String × Value) → List String
  | [] => []
  | (key, value) :: rest => (quoted key ++ ":" ++ value.compact) :: compactFields rest

end

def indentation (depth : Nat) : String :=
  String.ofList (List.replicate (2 * depth) ' ')

/-- Entries on lines of their own between two brackets, one level below `depth`. -/
def bracketed (opening closing : String) (depth : Nat) (entries : List String) : String :=
  if entries.isEmpty then opening ++ closing
  else
    let inner := entries.map fun entry => indentation (depth + 1) ++ entry
    opening ++ "\n" ++ ",\n".intercalate inner ++ "\n" ++ indentation depth ++ closing

mutual

def indented (depth : Nat) : Value → String
  | .list items => bracketed "[" "]" depth (indentedItems (depth + 1) items)
  | .record fields => bracketed "\x7b" "\x7d" depth (indentedFields (depth + 1) fields)
  | .null => "null"
  | .bool value => if value then "true" else "false"
  | .int value => toString value
  | .float value => floatText value
  | .text value => quoted value

def indentedItems (depth : Nat) : List Value → List String
  | [] => []
  | item :: rest => item.indented depth :: indentedItems depth rest

def indentedFields (depth : Nat) : List (String × Value) → List String
  | [] => []
  | (key, value) :: rest =>
      (quoted key ++ ": " ++ value.indented depth) :: indentedFields depth rest

end

/-- Indented by two blanks a level, without a line feed at the end. -/
def pretty (value : Value) : String := value.indented 0

end Value

end ClassMetrics
