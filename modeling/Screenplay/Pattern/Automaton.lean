import Screenplay.Pattern.CharClass

/-!
# Automata of patterns

A pattern is refused when its automaton takes too much space.  The automaton reads the
bytes of the encoded characters from the last one to the first; in it, a class is a
choice between sequences of ranges of bytes, of which those with the same beginning
share the states for it.
-/

namespace Screenplay.Pattern

namespace Automaton

/-! ## Sizes in bytes -/

/-- The size of a state. -/
def stateWeight : Nat := 32

/-- What each range of bytes adds to a state that tells several of them apart. -/
def transitionWeight : Nat := 8

/-- What each alternative adds to a state that chooses between several of them. -/
def alternativeWeight : Nat := 4

/-- The size of a state that chooses between two alternatives. -/
def branchWeight : Nat := stateWeight + 2 * alternativeWeight

/-- The size of a choice, apart from its alternatives: the state that chooses, and the
state in which they meet. -/
def choiceWeight (alternatives : Nat) : Nat :=
  2 * stateWeight + alternativeWeight * alternatives

/-! ## Encoded characters -/

/-- A stretch of numbers, from the first to the last one. -/
abbrev Stretch := Nat × Nat

/-- How many numbers there are of so many digits to the base 64. -/
def capacity (places : Nat) : Nat :=
  Nat.pow 64 places

/-- Cut the numbers from `first` to `last` into sequences of stretches of digits to the
base 64, where `places` digits follow the leading one.  The leading digit has no bound. -/
def digitStretches : (places first last : Nat) → List (List Stretch)
  | 0, first, last => [[(first, last)]]
  | places + 1, first, last =>
      let unit := capacity (places + 1)
      let low := first / unit
      let high := last / unit
      if low = high then
        (digitStretches places (first % unit) (last % unit)).map ((low, low) :: ·)
      else
        -- The numbers before the first multiple of the unit, those after the last one, and
        -- those between, of which only the leading digit matters.
        let startsWhole := first % unit = 0
        let endsWhole := last % unit = unit - 1
        let before :=
          if startsWhole then []
          else (digitStretches places (first % unit) (unit - 1)).map ((low, low) :: ·)
        let after :=
          if endsWhole then []
          else (digitStretches places 0 (last % unit)).map ((high, high) :: ·)
        let lowWhole := if startsWhole then low else low + 1
        let limitWhole := if endsWhole then high + 1 else high
        let between :=
          if lowWhole < limitWhole then
            [(lowWhole, limitWhole - 1) :: List.replicate (places + 1) (0, 63)]
          else
            []
        before ++ between ++ after

/-- The characters whose encodings have the same length: the bounds of their code
points, the number of bytes after the first one, and what the first byte adds to the
leading digit. -/
structure Encoding where
  first : Nat
  last : Nat
  places : Nat
  lead : Nat

/-- The encodings with one to four bytes. -/
def encodings : List Encoding :=
  [⟨0, 0x7F, 0, 0⟩, ⟨0x80, 0x7FF, 1, 0xC0⟩, ⟨0x800, 0xFFFF, 2, 0xE0⟩,
    ⟨0x10000, 0x10FFFF, 3, 0xF0⟩]

/-- The stretches of bytes for those of digits. -/
def toBytes (lead : Nat) : List Stretch → List Stretch
  | [] => []
  | (low, high) :: digits =>
      (lead + low, lead + high) :: digits.map fun (low, high) => (0x80 + low, 0x80 + high)

/-- The sequences of stretches of bytes that encode the code points of a run. -/
def byteStretches (run : Stretch) : List (List Stretch) :=
  encodings.flatMap fun encoding =>
    let first := max run.1 encoding.first
    let last := min run.2 encoding.last
    if first ≤ last then
      (digitStretches encoding.places first last).map (toBytes encoding.lead)
    else
      []

/-- The number of stretches of a sequence after those that it begins with like another
sequence. -/
def unsharedCount : (sequence other : List Stretch) → Nat
  | stretch :: sequence, first :: other =>
      if stretch = first then unsharedCount sequence other else sequence.length + 1
  | sequence, _ => sequence.length

/-- The number of states for sequences that come after another one, in order. -/
def stateCount (before : List Stretch) : List (List Stretch) → Nat
  | [] => 0
  | sequence :: sequences => unsharedCount sequence before + stateCount sequence sequences

/-- The size of the automaton for a set of code points with the given runs. -/
def weightOfRuns : List Stretch → Nat
  | [] => stateWeight
  | runs@((first, last) :: others) =>
      if first = last ∧ others.isEmpty then
        stateWeight * (Char.ofNat first).utf8Size
      else if runs.all (·.2 < 0x80) then
        2 * stateWeight + transitionWeight * runs.length
      else
        let sequences := runs.flatMap byteStretches
        choiceWeight sequences.length + stateWeight * stateCount [] sequences

end Automaton

/-- The size of the automaton for the characters of a class. -/
def CharClass.weight (characters : CharClass) : Nat :=
  Automaton.weightOfRuns characters.codes.runs

end Screenplay.Pattern
