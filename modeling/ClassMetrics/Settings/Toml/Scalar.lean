import ClassMetrics.Value.Basic

namespace ClassMetrics.Toml

/-- Tabs and spaces. -/
def isGap (mark : Char) : Bool := mark == ' ' || mark == '\t'

/-- Characters that may stand in a comment or string as they are. -/
def isPlain (mark : Char) : Bool :=
  mark == '\t' || (0x20 ≤ mark.toNat && mark.toNat != 0x7f)

def isHexDigit (mark : Char) : Bool :=
  mark.isDigit || ('a' ≤ mark && mark ≤ 'f') || ('A' ≤ mark && mark ≤ 'F')

def digitValue (mark : Char) : Nat :=
  if mark.isDigit then mark.toNat - '0'.toNat
  else if 'a' ≤ mark then mark.toNat - 'a'.toNat + 10
  else mark.toNat - 'A'.toNat + 10

def numberOf (base : Nat) (digits : List Char) : Nat :=
  digits.foldl (fun value digit => value * base + digitValue digit) 0

/-- The character with a code in hexadecimal digits. Surrogates are none. -/
def charOf? (digits : List Char) : Option Char :=
  let code := numberOf 16 digits
  if digits.all isHexDigit && (Char.ofNat code).toNat == code then some (Char.ofNat code) else none

/-- Escapes of one character after the backslash. -/
def shortEscape? : Char → Option Char
  | 'b' => some '\x08'
  | 't' => some '\t'
  | 'n' => some '\n'
  | 'f' => some '\x0c'
  | 'r' => some '\r'
  | '"' => some '"'
  | '\\' => some '\\'
  | _ => none

/-- An escape after its backslash. -/
def escape? : List Char → Option (Char × List Char)
  | 'u' :: a :: b :: c :: d :: rest => do return (← charOf? [a, b, c, d], rest)
  | 'U' :: a :: b :: c :: d :: e :: f :: g :: h :: rest => do
      return (← charOf? [a, b, c, d, e, f, g, h], rest)
  | mark :: rest => do return (← shortEscape? mark, rest)
  | [] => none

theorem escape?_shorter {chars rest : List Char} {mark : Char} (accepted : escape? chars = some (mark, rest)) :
    rest.length < chars.length := by
  unfold escape? at accepted
  split at accepted <;>
    simp only [Option.pure_def, Option.bind_eq_bind, Option.bind_eq_some_iff, Option.some.injEq, Prod.mk.injEq,
      reduceCtorEq] at accepted
  all_goals
    obtain ⟨_, _, _, rfl⟩ := accepted
    simp
  all_goals omega

/-- A string after its opening quote. -/
def basic? (read : List Char) (chars : List Char) : Option (String × List Char) :=
  match chars with
  | [] => none
  | '"' :: rest => some (String.ofList read.reverse, rest)
  | '\\' :: rest =>
      match _ : escape? rest with
      | some (mark, left) => basic? (mark :: read) left
      | none => none
  | mark :: rest => if isPlain mark then basic? (mark :: read) rest else none
termination_by chars.length
decreasing_by
  · have shorter := escape?_shorter ‹_›
    simp only [List.length_cons]
    omega
  · simp

/-- A string in single quotes after the opening one. Nothing is escaped in it. -/
def literal? (chars : List Char) : Option (String × List Char) :=
  match chars.dropWhile fun mark => isPlain mark && mark != '\'' with
  | '\'' :: rest => some (String.ofList (chars.takeWhile fun mark => isPlain mark && mark != '\''), rest)
  | _ => none

/-- Whether only a line end comes after some blanks. -/
def endsLine (chars : List Char) : Bool :=
  match chars.dropWhile isGap with
  | '\n' :: _ => true
  | '\r' :: '\n' :: _ => true
  | _ => false

/-- A string over several lines after its opening quotes. `skipping` holds while blanks are passed over after
a backslash at the end of a line. -/
def longBasic? (skipping : Bool) (read : List Char) (chars : List Char) : Option (String × List Char) :=
  match chars with
  | '"' :: '"' :: '"' :: '"' :: '"' :: rest => some (String.ofList ('"' :: '"' :: read).reverse, rest)
  | '"' :: '"' :: '"' :: '"' :: rest => some (String.ofList ('"' :: read).reverse, rest)
  | '"' :: '"' :: '"' :: rest => some (String.ofList read.reverse, rest)
  | '\r' :: '\n' :: rest => longBasic? skipping (if skipping then read else '\n' :: read) rest
  | '\n' :: rest => longBasic? skipping (if skipping then read else '\n' :: read) rest
  | '\\' :: rest =>
      if endsLine rest then longBasic? true read rest
      else
        match _ : escape? rest with
        | some (mark, left) => longBasic? false (mark :: read) left
        | none => none
  | mark :: rest =>
      if skipping && isGap mark then longBasic? true read rest
      else if isPlain mark then longBasic? false (mark :: read) rest
      else none
  | [] => none
termination_by chars.length
decreasing_by
  all_goals try simp only [List.length_cons]
  all_goals first
    | (have shorter := escape?_shorter ‹_›; omega)
    | omega

/-- A string over several lines in single quotes after the opening ones. -/
def longLiteral? (read : List Char) : List Char → Option (String × List Char)
  | '\'' :: '\'' :: '\'' :: '\'' :: '\'' :: rest => some (String.ofList ('\'' :: '\'' :: read).reverse, rest)
  | '\'' :: '\'' :: '\'' :: '\'' :: rest => some (String.ofList ('\'' :: read).reverse, rest)
  | '\'' :: '\'' :: '\'' :: rest => some (String.ofList read.reverse, rest)
  | '\r' :: '\n' :: rest => longLiteral? ('\n' :: read) rest
  | '\n' :: rest => longLiteral? ('\n' :: read) rest
  | mark :: rest => if isPlain mark then longLiteral? (mark :: read) rest else none
  | [] => none

/-- A line end right after the opening quotes is no part of the string. -/
def afterLineEnd : List Char → List Char
  | '\n' :: rest => rest
  | '\r' :: '\n' :: rest => rest
  | rest => rest

/-- A string of any of the four forms. -/
def string? : List Char → Option (String × List Char)
  | '"' :: '"' :: '"' :: rest => longBasic? false [] (afterLineEnd rest)
  | '"' :: rest => basic? [] rest
  | '\'' :: '\'' :: '\'' :: rest => longLiteral? [] (afterLineEnd rest)
  | '\'' :: rest => literal? rest
  | _ => none

/-- Digits with single underscores between them, without the underscores. -/
def digits? (isDigit : Char → Bool) : List Char → Option (List Char)
  | [] => none
  | [digit] => if isDigit digit then some [digit] else none
  | digit :: '_' :: rest => if isDigit digit then (digits? isDigit rest).map (digit :: ·) else none
  | digit :: rest => if isDigit digit then (digits? isDigit rest).map (digit :: ·) else none

def isSigned : List Char → Bool
  | '+' :: _ => true
  | '-' :: _ => true
  | _ => false

def unsigned (chars : List Char) : List Char := if isSigned chars then chars.drop 1 else chars

/-- Decimal digits that do not begin with a superfluous zero. -/
def wholeDigits? (chars : List Char) : Option (List Char) := do
  let digits ← digits? Char.isDigit chars
  if digits.head? == some '0' && 1 < digits.length then none else some digits

/-- Integers have 64 bits. -/
def fitting? (number : Int) : Option Value :=
  if -0x8000000000000000 ≤ number && number ≤ 0x7fffffffffffffff then some (.int number) else none

def integer? (chars : List Char) : Option Value :=
  match chars with
  | '0' :: 'x' :: rest => do fitting? (numberOf 16 (← digits? isHexDigit rest))
  | '0' :: 'o' :: rest => do fitting? (numberOf 8 (← digits? (fun mark => '0' ≤ mark && mark ≤ '7') rest))
  | '0' :: 'b' :: rest => do fitting? (numberOf 2 (← digits? (fun mark => mark == '0' || mark == '1') rest))
  | _ => do
      let size := numberOf 10 (← wholeDigits? (unsigned chars))
      fitting? (if chars.head? == some '-' then Int.negOfNat size else size)

/-- Beyond this power of ten a number is out of reach whatever its digits, if they are not too many. -/
def farExponent (digits : List Char) : Nat := digits.length + 400

/-- A decimal number as the nearest float; none if it is too large for one. -/
def finite? (negative : Bool) (digits : List Char) (exponent : Int) : Option Value :=
  let mantissa := numberOf 10 digits
  let far : Int := farExponent digits
  let size : Float :=
    if mantissa == 0 || exponent < -far then 0.0
    else if far < exponent then 1.0 / 0.0
    else Float.ofScientific mantissa (exponent < 0) exponent.natAbs
  if size.isInf then none else some (.float (if negative then -size else size))

def isExponentMark (mark : Char) : Bool := mark == 'e' || mark == 'E'

/-- The digits after a point, if there is one. -/
def fraction? : List Char → Option (List Char)
  | [] => some []
  | '.' :: rest => digits? Char.isDigit rest
  | _ => none

/-- The power of ten after its mark, if there is one. -/
def exponent? : List Char → Option Int
  | [] => some 0
  | _ :: rest => do
      let size := numberOf 10 (← digits? Char.isDigit (unsigned rest))
      return if rest.head? == some '-' then Int.negOfNat size else size

def float? (chars : List Char) : Option Value :=
  let negative := chars.head? == some '-'
  let body := unsigned chars
  if body == ['i', 'n', 'f'] then some (.float (if negative then -1.0 / 0.0 else 1.0 / 0.0))
  else if body == ['n', 'a', 'n'] then some (.float (0.0 / 0.0))
  else do
    let mantissa := body.takeWhile fun mark => !isExponentMark mark
    let tail := body.dropWhile fun mark => !isExponentMark mark
    if !mantissa.contains '.' && tail.isEmpty then none
    let whole ← wholeDigits? (mantissa.takeWhile (· != '.'))
    let fraction ← fraction? (mantissa.dropWhile (· != '.'))
    let exponent ← exponent? tail
    finite? negative (whole ++ fraction) (exponent - fraction.length)

def isLeapYear (year : Nat) : Bool := year % 4 == 0 && (year % 100 != 0 || year % 400 == 0)

def daysIn (year month : Nat) : Nat :=
  if month == 2 then (if isLeapYear year then 29 else 28)
  else if [4, 6, 9, 11].contains month then 30
  else 31

/-- Exactly so many digits. -/
def number? (width : Nat) (chars : List Char) : Option Nat :=
  if chars.length == width && chars.all Char.isDigit then some (numberOf 10 chars) else none

def isDate (chars : List Char) : Bool :=
  match chars.splitOn '-' with
  | [year, month, day] =>
      match number? 4 year, number? 2 month, number? 2 day with
      | some year, some month, some day => 1 ≤ month && month ≤ 12 && 1 ≤ day && day ≤ daysIn year month
      | _, _, _ => false
  | _ => false

def isClock (hour minute : List Char) : Bool :=
  match number? 2 hour, number? 2 minute with
  | some hour, some minute => hour < 24 && minute < 60
  | _, _ => false

def isSecond (chars : List Char) : Bool :=
  match number? 2 (chars.take 2), chars.drop 2 with
  | some second, [] => second ≤ 60
  | some second, '.' :: fraction => second ≤ 60 && !fraction.isEmpty && fraction.all Char.isDigit
  | _, _ => false

def isTime (chars : List Char) : Bool :=
  match chars.splitOn ':' with
  | [hour, minute, second] => isClock hour minute && isSecond second
  | _ => false

/-- A time with the distance of its zone after it. -/
def isZonedTime (chars : List Char) : Bool :=
  match chars.getLast? with
  | some 'Z' => isTime chars.dropLast
  | some 'z' => isTime chars.dropLast
  | _ =>
      let zone := chars.drop (chars.length - 6)
      let signed := zone.length == 6 && isSigned zone
      match (zone.drop 1).splitOn ':' with
      | [hour, minute] => signed && isClock hour minute && isTime (chars.take (chars.length - 6))
      | _ => false

/-- A date, a time, or both with a `T` or a blank between them. -/
def isMoment (chars : List Char) : Bool :=
  let separator := (chars.drop 10).head?
  let joined := separator == some 'T' || separator == some 't' || separator == some ' '
  let time := chars.drop 11
  isDate chars || isTime chars || (joined && isDate (chars.take 10) && (isTime time || isZonedTime time))

/-- A date or time has no kind of value to itself: it is a record of its text. -/
def moment? (chars : List Char) : Option Value :=
  if isMoment chars then some (.object [("moment", .text (String.ofList chars))]) else none

/-- Characters of values that are written without quotes. -/
def isWordMark (mark : Char) : Bool :=
  mark.isAlphanum || mark == '_' || mark == '+' || mark == '-' || mark == '.' || mark == ':'

def word? (chars : List Char) : Option Value :=
  if chars == ['t', 'r', 'u', 'e'] then some (.bool true)
  else if chars == ['f', 'a', 'l', 's', 'e'] then some (.bool false)
  else integer? chars <|> float? chars <|> moment? chars

/-- A date goes on after one blank if a time follows. -/
def wordLength (chars : List Char) : Nat :=
  let length := (chars.takeWhile isWordMark).length
  match chars.drop length with
  | ' ' :: rest =>
      if isDate (chars.take length) && (rest.head?.any Char.isDigit) then
        length + 1 + (rest.takeWhile isWordMark).length
      else length
  | _ => length

/-- Any value that holds no others. -/
def scalar? (chars : List Char) : Option (Value × List Char) :=
  if chars.head? == some '"' || chars.head? == some '\'' then do
    let (text, rest) ← string? chars
    return (.text text, rest)
  else do
    let length := wordLength chars
    return (← word? (chars.take length), chars.drop length)

end ClassMetrics.Toml
