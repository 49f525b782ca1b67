/-!
# Shortest decimals of binary floating-point numbers

A finite double is `significand * 2 ^ exponent`.  The reals that are rounded to
it form an interval, which contains its ends exactly when the significand is
even.  `shortest` finds the decimal with the fewest digits inside that interval
and, among those with equally many digits, the one nearest to the number; of two
equally near ones it takes the even one.

All arithmetic is exact: a number is compared with a decimal after both have been
brought to a common denominator.
-/

namespace Screenplay

/-- A decimal `digits * 10 ^ exponent`. -/
structure Decimal where
  digits : Nat
  exponent : Int
  deriving DecidableEq, Repr

namespace Decimal

/-- A power of ten. -/
def powerOfTen (exponent : Nat) : Nat :=
  Nat.pow 10 exponent

/-- A positive rational number. -/
structure Ratio where
  numerator : Nat
  denominator : Nat

namespace Ratio

/-- `significand * 2 ^ exponent`. -/
def ofBinary (significand : Nat) (exponent : Int) : Ratio :=
  if 0 ≤ exponent then
    ⟨significand <<< exponent.toNat, 1⟩
  else
    ⟨significand, 1 <<< (-exponent).toNat⟩

/-- `digits * 10 ^ exponent`. -/
def ofDecimal (decimal : Decimal) : Ratio :=
  if 0 ≤ decimal.exponent then
    ⟨decimal.digits * powerOfTen decimal.exponent.toNat, 1⟩
  else
    ⟨decimal.digits, powerOfTen (-decimal.exponent).toNat⟩

/-- Strict comparison. -/
def less (left right : Ratio) : Bool :=
  left.numerator * right.denominator < right.numerator * left.denominator

/-- The distance between two numbers. -/
def distance (left right : Ratio) : Ratio :=
  let scaledLeft := left.numerator * right.denominator
  let scaledRight := right.numerator * left.denominator
  ⟨(scaledLeft - scaledRight) + (scaledRight - scaledLeft),
    left.denominator * right.denominator⟩

/-- The whole number of units `10 ^ exponent` in a number. -/
def unitsBelow (number : Ratio) (exponent : Int) : Nat :=
  if 0 ≤ exponent then
    number.numerator / (number.denominator * powerOfTen exponent.toNat)
  else
    number.numerator * powerOfTen (-exponent).toNat / number.denominator

end Ratio

/-- A positive finite double with the midpoints to its two neighbours. -/
structure Rounding where
  number : Ratio
  lower : Ratio
  upper : Ratio
  closed : Bool

namespace Rounding

/-- Whether a number is rounded to the double. -/
def accepts (rounding : Rounding) (number : Ratio) : Bool :=
  if rounding.closed then
    !number.less rounding.lower && !rounding.upper.less number
  else
    rounding.lower.less number && number.less rounding.upper

/-- The double with the given biased exponent and fraction bits.  Below a power
of two the neighbours are twice as dense as above it. -/
def ofFields (biased fraction : Nat) : Rounding :=
  let significand := if biased = 0 then fraction else (1 <<< 52) + fraction
  let exponent : Int := (if biased = 0 then 1 else biased : Nat) - 1075
  let lower :=
    if fraction = 0 ∧ 1 < biased then
      Ratio.ofBinary (4 * significand - 1) (exponent - 2)
    else
      Ratio.ofBinary (2 * significand - 1) (exponent - 1)
  { number := Ratio.ofBinary significand exponent
    lower
    upper := Ratio.ofBinary (2 * significand + 1) (exponent - 1)
    closed := significand % 2 == 0 }

/-- The better of the two neighbours of the number among the multiples of
`10 ^ exponent`, if one of them is rounded to it. -/
def neighbour? (rounding : Rounding) (exponent : Int) : Option Decimal :=
  let units := rounding.number.unitsBelow exponent
  let below : Decimal := ⟨units, exponent⟩
  let above : Decimal := ⟨units + 1, exponent⟩
  let belowFits := 0 < units && rounding.accepts (.ofDecimal below)
  let aboveFits := rounding.accepts (.ofDecimal above)
  if belowFits && aboveFits then
    let toBelow := rounding.number.distance (.ofDecimal below)
    let toAbove := rounding.number.distance (.ofDecimal above)
    if toBelow.less toAbove then some below
    else if toAbove.less toBelow then some above
    else if units % 2 = 0 then some below
    else some above
  else if belowFits then some below
  else if aboveFits then some above
  else none

/-- The number of decimal digits before the point; it is not positive for numbers
below one tenth. -/
def magnitude (rounding : Rounding) : Int :=
  let whole := rounding.number.numerator / rounding.number.denominator
  if 0 < whole then
    (Nat.toDigits 10 whole).length
  else
    let inverse := (rounding.number.denominator - 1) / rounding.number.numerator
    1 - (Nat.toDigits 10 inverse).length

/-- Try ever finer grids, the first of which admits `17 - remaining` digits. -/
def search (rounding : Rounding) : (remaining : Nat) → Decimal
  | 0 => ⟨rounding.number.unitsBelow (rounding.magnitude - 17), rounding.magnitude - 17⟩
  | remaining + 1 =>
      match rounding.neighbour? (rounding.magnitude - (17 - remaining)) with
      | some decimal => decimal
      | none => rounding.search remaining

end Rounding

/-- Move factors of ten from the digits to the exponent. -/
def normalize (decimal : Decimal) : Nat → Decimal
  | 0 => decimal
  | rounds + 1 =>
      if decimal.digits ≠ 0 ∧ decimal.digits % 10 = 0 then
        normalize ⟨decimal.digits / 10, decimal.exponent + 1⟩ rounds
      else
        decimal

/-- The shortest decimal of the positive finite double with the given biased
exponent and fraction bits. -/
def shortest (biased fraction : Nat) : Decimal :=
  ((Rounding.ofFields biased fraction).search 17).normalize 20

end Decimal

end Screenplay
