import Screenplay.Text.Numeral

/-!
# Sets of code points

The tables of the Unicode character database are sets of code points given by
their maximal runs.  A set is held as the increasing list of its boundaries: the
code points at which membership changes, starting from outside the set.  A
character belongs to it when the number of boundaries at or below its code point
is odd.

In the written form of a table each run is the gap before it and its length,
both in hexadecimal and joined by a full stop, and blanks separate the runs.
-/

namespace Screenplay.Unicode

/-- Cut a text at blanks and drop the empty pieces. -/
def fields (text : String) : List (List Char) :=
  let (word, words) := text.toList.foldr
    (fun character (word, words) =>
      if character.isWhitespace then
        ([], if word.isEmpty then words else word :: words)
      else
        (character :: word, words))
    ([], [])
  if word.isEmpty then words else word :: words

/-- The number of entries of an increasing array that are at most `value`,
given that it lies between `low` and `high`.  Each round halves the distance. -/
def countUpToWithin (sorted : Array Nat) (value : Nat) :
    (rounds low high : Nat) → Nat
  | 0, low, _ => low
  | rounds + 1, low, high =>
      if low < high then
        let middle := (low + high) / 2
        if sorted.getD middle 0 ≤ value then
          countUpToWithin sorted value rounds (middle + 1) high
        else
          countUpToWithin sorted value rounds low middle
      else
        low

/-- The number of entries of an increasing array that are at most `value`. -/
def countUpTo (sorted : Array Nat) (value : Nat) : Nat :=
  countUpToWithin sorted value (sorted.size.log2 + 2) 0 sorted.size

/-- A set of code points, given by the code points where membership changes. -/
structure CodeSet where
  boundaries : Array Nat

namespace CodeSet

/-- Whether a character belongs to the set. -/
def contains (set : CodeSet) (character : Char) : Bool :=
  countUpTo set.boundaries character.toNat % 2 == 1

/-- The code points at which a run starts or has just ended. -/
def edges (set : CodeSet) : List Nat :=
  set.boundaries.toList

/-- Read the hexadecimal gap and length of one run. -/
def readRun? (field : List Char) : Option (Nat × Nat) := do
  let gap ← Text.readHex? (field.takeWhile (· != '.'))
  let length ← Text.readHex? ((field.dropWhile (· != '.')).drop 1)
  some (gap, length)

/-- Read the written form of a table. -/
def ofText (text : String) : CodeSet :=
  let (boundaries, _) := (fields text).foldl
    (fun (boundaries, position) field =>
      let (gap, length) := (readRun? field).getD (0, 0)
      let first := position + gap
      ((boundaries.push first).push (first + length), first + length))
    (#[], 0)
  ⟨boundaries⟩

/-! ## Sets from a test of membership

A set is also found by looking only at the code points where membership may change. -/

/-- Merge a code point, and behind it what `rest` merges, with an increasing list. -/
def mergeHead (code : Nat) (rest : List Nat → List Nat) : List Nat → List Nat
  | [] => code :: rest []
  | other :: others =>
      if code < other then code :: rest (other :: others)
      else if code = other then mergeHead code rest others
      else other :: mergeHead code rest others

/-- Merge two increasing lists, without repetitions. -/
def merge (left right : List Nat) : List Nat :=
  left.foldr mergeHead id right

/-- The entries of a list in increasing order, without repetitions. -/
def sort (codes : List Nat) : List Nat :=
  codes.foldr (mergeHead · id) []

/-- Whether the code point before the given one is in a set. -/
def holdsBefore (holds : Nat → Bool) : Nat → Bool
  | 0 => false
  | code + 1 => holds code

/-- The set with the given test of membership, whose outcome changes at most at the
edges. -/
def sweep (holds : Nat → Bool) (edges : List Nat) : CodeSet :=
  ⟨((sort edges).filter fun code => holds code != holdsBefore holds code).toArray⟩

/-- The runs between an increasing list of boundaries.  Without another boundary the last
one goes on to the last code point. -/
def runsBetween : List Nat → List (Nat × Nat)
  | [] => []
  | [first] => [(first, 0x10FFFF)]
  | first :: limit :: boundaries => (first, limit - 1) :: runsBetween boundaries

/-- The first and the last code point of each maximal run of a set. -/
def runs (set : CodeSet) : List (Nat × Nat) :=
  runsBetween set.edges

end CodeSet

end Screenplay.Unicode
