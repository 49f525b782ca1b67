/-!
# Decimal numerals

Integers are written with an optional sign and one or more ASCII digits, with
nothing around them.  A reader also has a range: a numeral whose value lies outside
of it is refused, however it is written.  A negative sign is refused by the readers
of natural numbers, even before zero.

Hexadecimal numerals, which have no sign, serve escapes.
-/

namespace Screenplay.Text

/-- The value of an ASCII digit. -/
def digitValue? (character : Char) : Option Nat :=
  if '0' ≤ character ∧ character ≤ '9' then
    some (character.toNat - '0'.toNat)
  else
    none

/-- Continue reading decimal digits after a prefix with the given value. -/
def readDigitsFrom (value : Nat) : List Char → Option Nat
  | [] => some value
  | character :: rest => do
      let digit ← digitValue? character
      readDigitsFrom (10 * value + digit) rest

/-- The value of a non-empty list of ASCII digits. -/
def readDigits? : List Char → Option Nat
  | [] => none
  | characters => readDigitsFrom 0 characters

/-- The value of a hexadecimal digit, in either case. -/
def hexValue? (character : Char) : Option Nat :=
  if 'a' ≤ character ∧ character ≤ 'f' then
    some (character.toNat - 'a'.toNat + 10)
  else if 'A' ≤ character ∧ character ≤ 'F' then
    some (character.toNat - 'A'.toNat + 10)
  else
    digitValue? character

/-- Continue reading hexadecimal digits after a prefix with the given value. -/
def readHexFrom (value : Nat) : List Char → Option Nat
  | [] => some value
  | character :: rest => do
      let digit ← hexValue? character
      readHexFrom (16 * value + digit) rest

/-- The value of a non-empty list of hexadecimal digits. -/
def readHex? : List Char → Option Nat
  | [] => none
  | characters => readHexFrom 0 characters

/-- The hexadecimal digits of a number, in lower case and without leading
zeros. -/
def hexDigits (value : Nat) : List Char :=
  Nat.toDigits 16 value

/-- Read a natural number up to `limit`, written with an optional plus sign. -/
def readNat? (limit : Nat) (text : String) : Option Nat := do
  let value ←
    match text.toList with
    | '+' :: digits => readDigits? digits
    | digits => readDigits? digits
  if value ≤ limit then some value else none

/-- Read an integer between `lowest` and `highest`, written with an optional
sign. -/
def readInt? (lowest highest : Int) (text : String) : Option Int := do
  let value : Int ←
    match text.toList with
    | '-' :: digits => (readDigits? digits).map fun magnitude => -(magnitude : Int)
    | '+' :: digits => (readDigits? digits).map fun magnitude => (magnitude : Int)
    | digits => (readDigits? digits).map fun magnitude => (magnitude : Int)
  if lowest ≤ value ∧ value ≤ highest then some value else none

end Screenplay.Text
