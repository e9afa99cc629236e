import ClassMetrics.Decimal.Binary
import ClassMetrics.Text.Blank
import ClassMetrics.Text.UpperCase
import ClassMetrics.Value.Json

namespace ClassMetrics.Report

/-- Tables and plain lists show this many entries. -/
def shownRows : Nat := 50

def capitalized : List Char → List Char
  | [] => []
  | first :: rest => Text.upperCase first ++ rest

/-- The words of a key, cut at blanks and at `_`, each with a capital. -/
def title (key : String) : String :=
  let spaced := key.toList.map fun mark => if mark = '_' then ' ' else mark
  String.ofList ([' '].intercalate ((Text.words spaced).map capitalized))

def int64Min : Int := -0x8000000000000000

def int64Max : Int := 0x7fffffffffffffff

/-- A float without a fraction is shown as a whole number of 64 bits, any other with two places. -/
def floatCell (number : Float) : String :=
  match Decimal.Binary.ofFloat? number with
  | some exact =>
      if exact.isWhole then toString (max int64Min (min int64Max exact.truncate))
      else Decimal.fixed 2 exact
  | none => "null"

mutual

/-- A value on one line. -/
def cell : Value → String
  | .null => "-"
  | .bool value => if value then "yes" else "no"
  | .int value => toString value
  | .float value => floatCell value
  | .text value => value
  | .list items => ", ".intercalate (cells items)
  | .record fields => Value.compact (.record fields)

def cells : List Value → List String
  | [] => []
  | item :: rest => cell item :: cells rest

end

/-- A row that can stand in a table: a record that holds no record. -/
def flatRow? : Value → Option (List Value.Field)
  | .record fields => if fields.any (·.2.isRecord) then none else some fields
  | _ => none

/-- The rows of a list all of whose items can stand in a table. -/
def tableRows? (items : List Value) : Option (List (List Value.Field)) :=
  items.mapM flatRow?

/-- The columns of a table are the keys of its first row. -/
def columns : List (List Value.Field) → List String
  | [] => []
  | first :: _ => first.map (·.1)

/-- The cells of a row; a missing key counts as null. -/
def rowCells (keys : List String) (row : List Value.Field) : List String :=
  keys.map fun key => cell ((Keyed.get? key row).getD .null)

/-- Nested values get a heading of their own. -/
def isNested : Value → Bool
  | .list _ => true
  | .record _ => true
  | _ => false

end ClassMetrics.Report
