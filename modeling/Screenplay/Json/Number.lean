import Screenplay.Decimal.Shortest
import Screenplay.Json.Basic
import Screenplay.Json.Tree

/-!
# Numbers of documents

A number without fraction and exponent is an integer if it fits 64 bits.  Every
other number is a double, computed from the leading digits that fit 64 bits and a
power of ten: up to `10 ^ 308` in one multiplication or division, each of which
rounds.  A number that exceeds the range of doubles is refused; minus zero is a
double.

A double is written with the fewest digits that read back.  Between `10 ^ -5` and
`10 ^ 16` they are written in place, elsewhere with a signed exponent.
-/

namespace Screenplay.Json.Number

/-- The largest natural number of a document. -/
def naturalLimit : Nat := UInt64.size - 1

/-- The largest magnitude of a negative integer of a document. -/
def negativeLimit : Nat := UInt64.size / 2

/-- Append digits to a significand while it fits, and count the digits that are
left. -/
def absorb (significand : Nat) : List Char → Nat × Nat
  | [] => (significand, 0)
  | digit :: rest =>
      let extended := 10 * significand + (Text.digitValue? digit).getD 0
      if extended ≤ naturalLimit then absorb extended rest
      else (significand, rest.length + 1)

/-- The double nearest to a power of ten. -/
def powerOfTen (exponent : Nat) : Float :=
  Float.ofScientific 1 false exponent

/-- Divide by a power of ten, by at most `10 ^ 308` at a time. -/
def divideByPower (value : Float) (exponent : Nat) : Float :=
  if exponent ≤ 308 then value / powerOfTen exponent
  else if value == 0 then value
  else divideByPower (value / powerOfTen 308) (exponent - 308)
termination_by exponent

/-- Multiply by a power of ten, if the result is a finite double. -/
def multiplyByPower? (value : Float) (exponent : Nat) : Option Float :=
  if exponent ≤ 308 then
    let product := value * powerOfTen exponent
    if product.isInf then none else some product
  else if value == 0 then some value
  else none

/-- The double of a significand and a power of ten. -/
def scale? (significand : Nat) (exponent : Int) : Option Float :=
  let value := (UInt64.ofNat significand).toFloat
  if 0 ≤ exponent then multiplyByPower? value exponent.toNat
  else some (divideByPower value (-exponent).toNat)

/-- An integer below zero stays below zero in 64 bits. -/
theorem ofInt_neg_lt_zero {magnitude : Nat}
    (fits : 0 < magnitude ∧ magnitude ≤ negativeLimit) :
    Int64.ofInt (-(magnitude : Int)) < 0 := by
  obtain ⟨positive, bounded⟩ := fits
  have limit : magnitude ≤ 9223372036854775808 := bounded
  rw [Int64.lt_iff_toInt_lt, Int64.toInt_ofInt_of_le (by omega) (by omega), Int64.toInt_zero]
  omega

/-- The number that a run of digits stands for when it is an integer. -/
def ofInteger (negative : Bool) (magnitude : Nat) : Number :=
  if !negative then .natural (UInt64.ofNat magnitude)
  else if fits : 0 < magnitude ∧ magnitude ≤ negativeLimit then
    .negative (Int64.ofInt (-(magnitude : Int))) (ofInt_neg_lt_zero fits)
  else .double (-(UInt64.ofNat magnitude).toFloat)

/-- The exponent that a number is spelled with. -/
def spelledExponent (spelling : Spelling) : Int :=
  match spelling.exponent with
  | none => 0
  | some (below, digits) =>
      let magnitude : Int := (Text.readDigitsFrom 0 digits).getD 0
      if below then -magnitude else magnitude

/-- The number that a spelling stands for. -/
def ofSpelling? (spelling : Spelling) : Option Number :=
  let (whole, unread) := absorb 0 spelling.whole
  if spelling.fraction.isNone && spelling.exponent.isNone && unread == 0 then
    some (ofInteger spelling.negative whole)
  else
    let fraction := spelling.fraction.getD []
    let (significand, ignored) := absorb whole fraction
    let exponent : Int :=
      unread - (fraction.length - ignored : Nat) + spelledExponent spelling
    (scale? significand exponent).map fun value =>
      .double (if spelling.negative then -value else value)

/-- The digits of a positive decimal, in place or with an exponent. -/
def decimalText (decimal : Decimal) : String :=
  let digits := Nat.toDigits 10 decimal.digits
  let point := digits.length + decimal.exponent
  let chars :=
    if 0 ≤ decimal.exponent ∧ point ≤ 16 then
      digits ++ List.replicate decimal.exponent.toNat '0' ++ ['.', '0']
    else if 0 < point ∧ point ≤ 16 then
      digits.take point.toNat ++ '.' :: digits.drop point.toNat
    else if -5 < point ∧ point ≤ 0 then
      ['0', '.'] ++ List.replicate (-point).toNat '0' ++ digits
    else
      let leading := digits.take 1
      let trailing := digits.drop 1
      let sign := if point ≤ 0 then '-' else '+'
      leading ++ (if trailing.isEmpty then [] else '.' :: trailing) ++
        ['e', sign] ++ Nat.toDigits 10 (point - 1).natAbs
  String.ofList chars

/-- The written form of a finite double. -/
def doubleText (value : Float) : String :=
  let bits := value.toBits
  let biased := (bits >>> 52 &&& 0x7ff).toNat
  let fraction := (bits &&& 0xfffffffffffff).toNat
  let sign := if bits >>> 63 = 1 then "-" else ""
  if biased = 0 ∧ fraction = 0 then sign ++ "0.0"
  else sign ++ decimalText (Decimal.shortest biased fraction)

/-- The written form of a number. -/
def toText : Number → String
  | .natural value => toString value.toNat
  | .negative value _ => toString value.toInt
  | .double value => doubleText value

end Screenplay.Json.Number
