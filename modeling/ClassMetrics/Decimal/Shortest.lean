import ClassMetrics.Decimal.Binary

namespace ClassMetrics.Decimal

/-!
The decimal with the fewest digits that reads back as a given double, and of several such the nearest.
For one digit, two digits and so on the two grid points around the number are tried; all comparisons
are between natural numbers.
-/

/-- The number `digits · 10 ^ exponent`. -/
structure Scientific where
  digits : Nat
  exponent : Int
deriving Repr, DecidableEq

/-- A positive number and the ends of the interval that rounds to it, as numerators over one denominator. -/
structure Interval where
  low : Nat
  value : Nat
  high : Nat
  denominator : Nat
  endsIncluded : Bool
deriving Repr

/-- The interval reaches half way to both neighbours; below a power of two the neighbour is at half the
distance. -/
def Interval.around (number : Binary) : Interval :=
  let unit := Nat.pow 2 number.exponent.toNat
  let below := if number.mantissa = Nat.pow 2 52 ∧ number.exponent ≠ Binary.leastExponent then 1 else 2
  { low := (4 * number.mantissa - below) * unit
    value := 4 * number.mantissa * unit
    high := (4 * number.mantissa + 2) * unit
    denominator := 4 * number.denominator
    endsIncluded := number.mantissa % 2 == 0 }

namespace Interval

/-- Compares `point · 10 ^ exponent` with `numerator` over the denominator. -/
def compare (interval : Interval) (point : Nat) (exponent : Int) (numerator : Nat) : Ordering :=
  Ord.compare (point * interval.denominator * Nat.pow 10 exponent.toNat)
    (numerator * Nat.pow 10 (-exponent).toNat)

def contains (interval : Interval) (point : Nat) (exponent : Int) : Bool :=
  let fromLow := interval.compare point exponent interval.low
  let fromHigh := interval.compare point exponent interval.high
  if interval.endsIncluded then fromLow.isGE && fromHigh.isLE else fromLow.isGT && fromHigh.isLT

/-- The greatest power of ten that is at most the value. -/
def magnitude (interval : Interval) : Int :=
  if interval.denominator ≤ interval.value then
    (Nat.toDigits 10 (interval.value / interval.denominator)).length - 1
  else
    let quotient := (interval.denominator + interval.value - 1) / interval.value
    Int.negOfNat (Nat.toDigits 10 (quotient - 1)).length

/-- A point of the grid of `count` digits next to the value, if one reads back; at equal distances the
even one. -/
def onGrid? (interval : Interval) (count : Nat) : Option Scientific :=
  let exponent := interval.magnitude - (count - 1 : Nat)
  let floor := interval.value * Nat.pow 10 (-exponent).toNat /
    (interval.denominator * Nat.pow 10 exponent.toNat)
  let nearest :=
    match interval.compare (2 * floor + 1) exponent (2 * interval.value) with
    | .gt => floor
    | .lt => floor + 1
    | .eq => if floor % 2 = 0 then floor else floor + 1
  let farthest := if nearest = floor then floor + 1 else floor
  if interval.contains nearest exponent then some ⟨nearest, exponent⟩
  else if interval.contains farthest exponent then some ⟨farthest, exponent⟩
  else none

end Interval

/-- Moves zeros at the end of the digits into the exponent. -/
def Scientific.withoutZeros (number : Scientific) : Scientific :=
  if number.digits ≠ 0 ∧ number.digits % 10 = 0 then
    withoutZeros ⟨number.digits / 10, number.exponent + 1⟩
  else
    number
termination_by number.digits
decreasing_by omega

/-- Seventeen digits always suffice, so the last alternative is never taken. -/
def shortest (number : Binary) : Scientific :=
  if number.mantissa = 0 then ⟨0, 0⟩
  else
    let interval := Interval.around number
    match (List.range 17).findSome? fun count => interval.onGrid? (count + 1) with
    | some found => found.withoutZeros
    | none => ⟨number.mantissa, number.exponent⟩

end ClassMetrics.Decimal
