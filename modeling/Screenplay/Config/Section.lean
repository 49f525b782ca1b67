/-!
# Sections of a document

A document has five sections, each of which defines names of one sort.
-/

namespace Screenplay

/-- A section of a document. -/
inductive Section where
  | commands
  | packages
  | actions
  | elements
  | workflows
  deriving DecidableEq, Repr

namespace Section

/-- The name of a section in documents. -/
def name : Section → String
  | .commands => "COMMANDS"
  | .packages => "PACKAGES"
  | .actions => "ACTIONS"
  | .elements => "UI_ELEMENTS"
  | .workflows => "WORKFLOWS"

/-- All sections, in the order in which they are read. -/
def all : List Section := [.commands, .packages, .actions, .elements, .workflows]

/-- The sections that hold values rather than workflows. -/
def values : List Section := [.commands, .packages, .actions, .elements]

/-- The section with a name. -/
def ofName? (name : String) : Option Section :=
  all.find? (·.name == name)

@[simp] theorem ofName?_name (part : Section) : ofName? part.name = some part := by
  cases part <;> decide

end Section

end Screenplay
