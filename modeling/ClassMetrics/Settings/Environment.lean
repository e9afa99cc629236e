import ClassMetrics.Data.Lists
import ClassMetrics.Settings.Toml.Scalar
import ClassMetrics.Text.Blank
import ClassMetrics.Value.Basic

namespace ClassMetrics.Environment

/-!
Settings in environment variables. A name starts with `JSCA_`, whatever the case, and `__` in it leads into a
section; a text is read as a truth value, a number, a list, a record or a string, and stands for itself if it
is none of them.
-/

def isSpace (mark : Char) : Bool :=
  mark == ' ' || mark == '\t' || mark == '\n' || mark == '\x0c' || mark == '\r'

def skipSpace (chars : List Char) : List Char := chars.dropWhile isSpace

/-- Characters that end a value without quotes. -/
def isSeparator (mark : Char) : Bool :=
  mark == ',' || mark == '\x7b' || mark == '\x7d' || mark == '[' || mark == ']'

/-- A number with a point in it. -/
def fractional? (chars : List Char) : Option Value :=
  let body := Toml.unsigned chars
  let whole := body.takeWhile Char.isDigit
  match body.dropWhile Char.isDigit with
  | '.' :: rest => do
      let fraction := rest.takeWhile Char.isDigit
      if whole.isEmpty && fraction.isEmpty then none
      let exponent ← match rest.dropWhile Char.isDigit with
        | [] => some 0
        | mark :: tail =>
            if Toml.isExponentMark mark && !tail.contains '_' then Toml.exponent? (mark :: tail) else none
      let negative := chars.head? == some '-'
      let infinite := Value.float (if negative then -1.0 / 0.0 else 1.0 / 0.0)
      return (Toml.finite? negative (whole ++ fraction) (exponent - fraction.length)).getD infinite
  | _ => none

/-- Up to 64 bits, with a sign or without. -/
def integer? (chars : List Char) : Option Value :=
  let digits := Toml.unsigned chars
  let size := Toml.numberOf 10 digits
  if digits.isEmpty || !digits.all Char.isDigit then none
  else if chars.head? == some '-' then (if size ≤ 0x8000000000000000 then some (.int (Int.negOfNat size)) else none)
  else if size ≤ 0xffffffffffffffff then some (.nat size)
  else none

/-- A value without quotes: a number, or the text itself. -/
def plain (chars : List Char) : Value :=
  (fractional? chars <|> integer? chars).getD (.text (String.ofList chars))

def isKeyMark (mark : Char) : Bool := mark.isAlphanum || mark == '_' || mark == '-'

def key? (chars : List Char) : Option (String × List Char) :=
  match chars with
  | '"' :: rest => Toml.basic? [] rest
  | _ =>
      let bare := chars.takeWhile isKeyMark
      if bare.isEmpty then none else some (String.ofList bare, chars.drop bare.length)

abbrev ValueReader := List Char → Option (Value × List Char)

/-- Items of a list after `[`. The number bounds how many there are. -/
def items? (value? : ValueReader) : Nat → List Value → List Char → Option (Value × List Char)
  | 0, _, _ => none
  | bound + 1, read, chars =>
      match chars with
      | ']' :: rest => some (.list read.reverse, rest)
      | _ => do
          let (item, rest) ← value? chars
          match rest with
          | ',' :: rest => items? value? bound (item :: read) rest
          | ']' :: rest => return (.list (item :: read).reverse, rest)
          | _ => none

/-- Members of a record after its opening brace. The number bounds how many there are. -/
def members? (value? : ValueReader) : Nat → List Value.Field → List Char → Option (Value × List Char)
  | 0, _, _ => none
  | bound + 1, read, chars =>
      match chars with
      | '\x7d' :: rest => some (.object read.reverse, rest)
      | _ => do
          let (key, rest) ← key? (skipSpace chars)
          match skipSpace rest with
          | '=' :: rest =>
              let (content, rest) ← value? rest
              match rest with
              | ',' :: rest => members? value? bound ((key, content) :: read) rest
              | '\x7d' :: rest => return (.object ((key, content) :: read).reverse, rest)
              | _ => none
          | _ => none

/-- A value that holds no others. -/
def atom? : ValueReader
  | 't' :: 'r' :: 'u' :: 'e' :: rest => some (.bool true, rest)
  | 'f' :: 'a' :: 'l' :: 's' :: 'e' :: rest => some (.bool false, rest)
  | '"' :: rest => (Toml.basic? [] rest).map fun (text, rest) => (.text text, rest)
  | '\'' :: mark :: '\'' :: rest => some (.text (String.singleton mark), rest)
  | '\'' :: _ => none
  | chars =>
      some (plain (Text.trim (chars.takeWhile fun mark => !isSeparator mark)),
        chars.dropWhile fun mark => !isSeparator mark)

/-- Reads a value and the blanks around it. -/
def spaced (read : ValueReader) : ValueReader := fun chars =>
  (read (skipSpace chars)).map fun (value, rest) => (value, skipSpace rest)

/-- A value with at most so many levels of lists and records. -/
def value? : Nat → ValueReader
  | 0 => spaced atom?
  | depth + 1 => spaced fun chars =>
      match chars with
      | '\x7b' :: rest => members? (value? depth) (rest.length + 1) [] rest
      | '[' :: rest => items? (value? depth) (rest.length + 1) [] rest
      | _ => atom? chars

/-- A text that is not a value as a whole stands for itself. -/
def valueOf (text : String) : Value :=
  match value? text.length text.toList with
  | some (value, []) => value
  | _ => .text text

/-- The start that a name has to have. -/
def start : List Char := "JSCA_".toList

/-- Every `__` in a name becomes a point. -/
def pointed : List Char → List Char
  | '_' :: '_' :: rest => '.' :: pointed rest
  | mark :: rest => mark :: pointed rest
  | [] => []

/-- The keys that the name of a variable leads through; none if it is no setting. -/
def keysOf? (name : String) : Option (List String) :=
  let chars := Text.trim name.toList
  if start.isPrefixOf (chars.map Char.toUpper) then
    let keys := ((Text.trim (pointed (chars.drop start.length))).map Char.toLower).splitOn '.'
    if keys.any List.isEmpty then none else some (keys.map String.ofList)
  else none

/-- A value below some keys. -/
def nest (value : Value) : List String → Value
  | [] => value
  | key :: keys => .record [(key, nest value keys)]

/-- What each variable sets, one record a variable. -/
def settings (environment : List (String × String)) : List Value :=
  environment.filterMap fun (name, text) => (keysOf? name).map (nest (valueOf text))

end ClassMetrics.Environment
