import Screenplay.Pattern.Automaton
import Screenplay.Pattern.Expression

/-!
# Terms of a pattern

While a pattern is read, each expression is carried along with what its bounds
are checked against: how deeply it is nested, how large the automaton for it
grows, whether it can consume anything, and whether it may be repeated at all.
-/

namespace Screenplay.Pattern

/-- An expression with its measures. -/
structure Term where
  expression : Expression
  /-- How many constructs are nested inside one another. -/
  depth : Nat
  /-- The size in bytes of an automaton for the expression. -/
  weight : Nat
  /-- The expression consumes no character. -/
  consumesNothing : Bool
  /-- The term only sets flags for the terms after it. -/
  isDirective : Bool

namespace Term

open Automaton

/-- The deepest nesting of a pattern. -/
def depthLimit : Nat := 250

/-- The largest automaton of a pattern, in bytes. -/
def weightLimit : Nat := 10 * 1024 * 1024

/-- Nothing at all. -/
def empty : Term := ⟨.empty, 0, stateWeight, true, false⟩

/-- A change of flags. -/
def directive : Term := ⟨.empty, 0, stateWeight, true, true⟩

/-- One character of a class. -/
def oneOf (characters : CharClass) (depth : Nat) : Term :=
  ⟨.oneOf characters, depth, characters.weight, false, false⟩

/-- An assertion. -/
def assertion (assertion : Assertion) : Term :=
  ⟨.assertion assertion, 0, stateWeight, true, false⟩

/-- The depth of a list of terms that is a construct of its own when it has more
than one. -/
def joinedDepth : List Term → Nat
  | [] => 0
  | [term] => term.depth
  | terms => 1 + (terms.map Term.depth).foldl max 0

/-- The weight of several terms. -/
def totalWeight (terms : List Term) : Nat :=
  (terms.map Term.weight).foldl (· + ·) 0

/-- Terms one after the other. -/
def sequence (terms : List Term) : Term :=
  match terms with
  | [] => empty
  | terms =>
      { expression := Expression.sequenceOf (terms.map Term.expression)
        depth := joinedDepth terms
        weight := totalWeight terms
        consumesNothing := terms.all Term.consumesNothing
        isDirective := false }

/-- One of several terms, of which there is at least the first. -/
def choice (first : Term) (others : List Term) : Term :=
  match others with
  | [] => first
  | others =>
      { expression := others.foldl (fun left right => .choice left right.expression)
          first.expression
        depth := joinedDepth (first :: others)
        weight := totalWeight (first :: others) + choiceWeight (others.length + 1)
        consumesNothing := (first :: others).all Term.consumesNothing
        isDirective := false }

/-- A group, which may capture what it matches. -/
def group (captures : Bool) (inner : Term) : Term :=
  { expression := inner.expression
    depth := inner.depth + 1
    weight := inner.weight + if captures then 2 * stateWeight else 0
    consumesNothing := inner.consumesNothing
    isDirective := false }

/-- A repetition.  A counted one is a copy of the term for each time; the optional copies
have a branch before each of them and a common end.  Repeating a term that consumes
nothing takes no more space than the term and a branch. -/
def repetition (least : Nat) (most : Option Nat) (body : Term) : Term :=
  { expression := .repetition body.expression least most
    depth := body.depth + 1
    weight :=
      if most == some 0 then stateWeight
      else if body.consumesNothing then body.weight + branchWeight
      else
        match most with
        | none => max 1 least * body.weight + branchWeight
        | some most =>
            let ending := if least = most then 0 else stateWeight
            least * body.weight + (most - least) * (body.weight + branchWeight) + ending
    consumesNothing := body.consumesNothing || most == some 0
    isDirective := false }

end Term

end Screenplay.Pattern
