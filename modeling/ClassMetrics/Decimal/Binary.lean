namespace ClassMetrics.Decimal

structure Binary where
  negative : Bool
  mantissa : Nat
  exponent : Int
deriving Repr, DecidableEq

namespace Binary

/-- The least exponent, that of zero and of the subnormal numbers. -/
def leastExponent : Int := -1074

/-- The number that the bits of a double spell; none for infinities and for what is no number. -/
def ofBits? (bits : Nat) : Option Binary :=
  let negative := bits / Nat.pow 2 63 % 2 == 1
  let biased : Nat := bits / Nat.pow 2 52 % Nat.pow 2 11
  let fraction : Nat := bits % Nat.pow 2 52
  if biased = 2047 then none
  else if biased = 0 then some ⟨negative, fraction, leastExponent⟩
  else some ⟨negative, Nat.pow 2 52 + fraction, (biased : Int) - 1075⟩

def ofFloat? (number : Float) : Option Binary :=
  ofBits? number.toBits.toNat

/-- Numerator of the magnitude over `denominator`. -/
def numerator (number : Binary) : Nat :=
  number.mantissa * Nat.pow 2 number.exponent.toNat

def denominator (number : Binary) : Nat :=
  Nat.pow 2 (-number.exponent).toNat

def isWhole (number : Binary) : Bool :=
  number.numerator % number.denominator == 0

/-- The number without its fraction. -/
def truncate (number : Binary) : Int :=
  let magnitude : Int := number.numerator / number.denominator
  if number.negative then -magnitude else magnitude

end Binary

/-- The whole number nearest to a quotient; a half goes to the even neighbour. -/
def roundDiv (numerator denominator : Nat) : Nat :=
  let quotient := numerator / denominator
  let twice := 2 * (numerator % denominator)
  if twice < denominator then quotient
  else if denominator < twice then quotient + 1
  else if quotient % 2 = 0 then quotient
  else quotient + 1

/-- A fixed number of decimal places, rounded from the exact value. The sign is kept where nothing else is left
of the number. -/
def fixed (places : Nat) (number : Binary) : String :=
  let unit := Nat.pow 10 places
  let scaled := roundDiv (number.numerator * unit) number.denominator
  let fraction := Nat.toDigits 10 (scaled % unit)
  String.ofList <|
    (if number.negative then ['-'] else []) ++ Nat.toDigits 10 (scaled / unit) ++ ['.'] ++
      List.replicate (places - fraction.length) '0' ++ fraction

end ClassMetrics.Decimal
