import Screenplay.Pattern.CharClass

/-!
# Regular expressions

The expressions that patterns denote.  Greedy and reluctant repetition, and
capturing, make no difference to whether a text is matched, so they have no place
here.

An assertion holds at a position of a text: between the character before it and
the character after it, either of which may be missing.
-/

namespace Screenplay.Pattern

/-- A condition on a position of a text.  Lines end at a line feed or, where line
breaks may be pairs, at a carriage return, a line feed or both.  Words are those
of Unicode or those of ASCII. -/
inductive Assertion where
  | textStart
  | textEnd
  | lineStart (pairs : Bool)
  | lineEnd (pairs : Bool)
  | wordBoundary (ascii : Bool)
  | notWordBoundary (ascii : Bool)
  | wordStart (ascii : Bool)
  | wordEnd (ascii : Bool)
  | wordStartHalf (ascii : Bool)
  | wordEndHalf (ascii : Bool)
  deriving DecidableEq, Repr

namespace Assertion

/-- Whether a neighbour of a position is part of a word. -/
def isWordAt (ascii : Bool) : Option Char → Bool
  | none => false
  | some character =>
      if ascii then character.isAlphanum || character == '_'
      else Unicode.Property.isWord character

/-- Whether the assertion holds between two characters.  No line starts or ends
inside a line break that is a pair. -/
def holds (before after : Option Char) : Assertion → Bool
  | .textStart => before.isNone
  | .textEnd => after.isNone
  | .lineStart false => before.isNone || before == some '\n'
  | .lineEnd false => after.isNone || after == some '\n'
  | .lineStart true =>
      before.isNone || before == some '\n' || (before == some '\r' && after != some '\n')
  | .lineEnd true =>
      after.isNone || after == some '\r' || (after == some '\n' && before != some '\r')
  | .wordBoundary ascii => isWordAt ascii before != isWordAt ascii after
  | .notWordBoundary ascii => isWordAt ascii before == isWordAt ascii after
  | .wordStart ascii => !isWordAt ascii before && isWordAt ascii after
  | .wordEnd ascii => isWordAt ascii before && !isWordAt ascii after
  | .wordStartHalf ascii => !isWordAt ascii before
  | .wordEndHalf ascii => !isWordAt ascii after

end Assertion

/-- A regular expression. -/
inductive Expression where
  | empty
  | oneOf (characters : CharClass)
  | assertion (assertion : Assertion)
  | sequence (first second : Expression)
  | choice (left right : Expression)
  | repetition (body : Expression) (least : Nat) (most : Option Nat)

namespace Expression

/-- The expressions of a list, one after the other. -/
def sequenceOf (expressions : List Expression) : Expression :=
  expressions.foldr .sequence .empty

end Expression

end Screenplay.Pattern
