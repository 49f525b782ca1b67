import Screenplay.Pattern.Expression

/-!
# Matching

An expression relates positions of a text: `Matches text expression from to` says
that it matches the stretch between the two.  The search follows all positions at
once.  A set of positions is a natural number whose binary digit at place `i` says
whether position `i` is in the set, so that a character class is one shift of the
positions before the characters that it holds, and a choice is a union.

A text is found if the expression matches some stretch of it.
-/

namespace Screenplay.Pattern

/-- The set of positions, numbered from the head of the list, whose flag is
set. -/
def positionsOf : List Bool → Nat
  | [] => 0
  | flag :: flags => flag.toNat + 2 * positionsOf flags

/-- The positions before the characters of a class. -/
def positionsBefore (characters : CharClass) (text : List Char) : Nat :=
  positionsOf (text.map characters.contains)

/-- For each position whether an assertion holds there, in a text that follows the
character `before`. -/
def assertionFlags (assertion : Assertion) (before : Option Char) :
    List Char → List Bool
  | [] => [assertion.holds before none]
  | character :: rest =>
      assertion.holds before (some character) ::
        assertionFlags assertion (some character) rest

/-- Apply a step to a set of positions as many times as said.  Once a step changes
nothing, neither do the remaining ones. -/
def applyTimes (step : Nat → Nat) : (times : Nat) → Nat → Nat
  | 0, positions => positions
  | times + 1, positions =>
      let next := step positions
      if next = positions then positions else applyTimes step times next

/-- Add to a set of positions those reached from it in at most as many steps as
said. -/
def applyUpTo (step : Nat → Nat) : (times : Nat) → Nat → Nat
  | 0, positions => positions
  | times + 1, positions =>
      let next := positions ||| step positions
      if next = positions then positions else applyUpTo step times next

/-- The positions where a match can end that starts at one of the given
positions.  A repetition without upper bound has reached all of its positions
after as many rounds as there are positions. -/
def reach (text : List Char) : Expression → Nat → Nat
  | .empty, positions => positions
  | .oneOf characters, positions =>
      (positions &&& positionsBefore characters text) <<< 1
  | .assertion assertion, positions =>
      positions &&& positionsOf (assertionFlags assertion none text)
  | .sequence first second, positions => reach text second (reach text first positions)
  | .choice left right, positions => reach text left positions ||| reach text right positions
  | .repetition body least most, positions =>
      let rounds := (most.map (· - least)).getD (text.length + 1)
      applyUpTo (reach text body) rounds (applyTimes (reach text body) least positions)

/-- All positions of a text. -/
def allPositions (text : List Char) : Nat :=
  (1 <<< (text.length + 1)) - 1

/-- Whether the expression matches some stretch of the text. -/
def Expression.isFoundIn (expression : Expression) (text : List Char) : Bool :=
  reach text expression (allPositions text) != 0

end Screenplay.Pattern
