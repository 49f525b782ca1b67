import Screenplay.Pattern.Matching
import Screenplay.Pattern.Reader

/-!
# Patterns

A pattern is a regular expression that is anchored at both ends and ignores case.
Its source is put into a group between two anchors, and the result is read as a
whole.  A pattern is known by its source; two patterns with one source are equal.
-/

namespace Screenplay

namespace Pattern

/-- The source between anchors. -/
def anchored (source : String) : List Char :=
  ['^', '(', '?', ':'] ++ source.toList ++ [')', '$']

/-- The expression of an anchored source. -/
def expression? (source : String) : Option Expression :=
  (Term.ofText? (anchored source)).map Term.expression

end Pattern

/-- A source together with the expression that it denotes. -/
structure Pattern where
  source : String
  expression : Pattern.Expression
  denotes : Pattern.expression? source = some expression

namespace Pattern

/-- The pattern with a source, if the source can be read. -/
def ofSource? (source : String) : Option Pattern :=
  match denotes : expression? source with
  | none => none
  | some expression => some ⟨source, expression, denotes⟩

/-- Whether a value is matched. -/
def isMatch (pattern : Pattern) (value : String) : Bool :=
  pattern.expression.isFoundIn value.toList

/-- The pattern between slashes, with a letter for the case that it ignores. -/
def display (pattern : Pattern) : String :=
  "/" ++ pattern.source ++ "/i"

theorem ext_source {left right : Pattern} (same : left.source = right.source) :
    left = right := by
  obtain ⟨source, expression, denotes⟩ := left
  obtain ⟨other, otherExpression, otherDenotes⟩ := right
  subst same
  have equal := denotes.symm.trans otherDenotes
  cases equal
  rfl

instance : DecidableEq Pattern := fun left right =>
  if same : left.source = right.source then
    isTrue (ext_source same)
  else
    isFalse fun equal => same (congrArg source equal)

end Pattern

end Screenplay
