/-!
# JSON values

A value that stands in a document.  Integers that fit 64 bits, signed or not, are
kept as integers, every other number is a double.

The members of an object are held in a list.  Reading a document sorts them by
name and keeps the last of those with equal names; writers that lay out a
document of their own list the members in the order of its format.
-/

namespace Screenplay

namespace Json

/-- A number of a document. -/
inductive Number where
  | natural (value : UInt64)
  | negative (value : Int64) (below : value < 0)
  | double (value : Float)

end Json

/-- A JSON value. -/
inductive Json where
  | null
  | bool (value : Bool)
  | number (value : Json.Number)
  | text (value : String)
  | array (items : List Json)
  | object (members : List (String × Json))

namespace Json

instance : Inhabited Json := ⟨.null⟩

/-- The number of a natural that is known to fit. -/
def ofNat (value : Nat) : Json :=
  .number (.natural (UInt64.ofNat value))

/-- The number of an integer that is known to fit. -/
def ofInt (value : Int) : Json :=
  if below : value < 0 ∧ Int64.ofInt value < 0 then
    .number (.negative (Int64.ofInt value) below.2)
  else
    .number (.natural (UInt64.ofNat value.toNat))

/-- The text of a value that is one. -/
def text? : Json → Option String
  | .text value => some value
  | _ => none

/-- Whether the value is `null`. -/
def isNull : Json → Bool
  | .null => true
  | _ => false

end Json

end Screenplay
