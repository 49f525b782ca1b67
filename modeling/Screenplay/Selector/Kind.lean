/-!
# Kinds of selectors

A document names the kind of a selector, of which there are five.
-/

namespace Screenplay

/-- The attribute by which a configured element is found. -/
inductive SelectorKind where
  | resourceId
  | text
  | textContains
  | description
  | className
  deriving DecidableEq, Repr

namespace SelectorKind

/-- The name of a kind in documents. -/
def name : SelectorKind → String
  | .resourceId => "RESOURCE_ID"
  | .text => "TEXT"
  | .textContains => "TEXT_CONTAINS"
  | .description => "DESCRIPTION"
  | .className => "CLASS"

/-- All kinds. -/
def all : List SelectorKind :=
  [.resourceId, .text, .textContains, .description, .className]

/-- The kind with a name. -/
def ofName? (name : String) : Option SelectorKind :=
  all.find? (·.name == name)

@[simp] theorem ofName?_name (kind : SelectorKind) : ofName? kind.name = some kind := by
  cases kind <;> decide

end SelectorKind

end Screenplay
