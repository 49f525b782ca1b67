/-!
# Kinds of tasks

A document names the kind of a task, of which there are eleven.  The kind decides
what the task needs: a text, an element, or an element and a way to scroll to it.
-/

namespace Screenplay

/-- What a task does, by its name in documents. -/
inductive TaskKind where
  | command
  | hasPackageInForeground
  | hasElementInForeground
  | click
  | clickIfExists
  | longClick
  | press
  | longPress
  | scrollToFindAndClick
  | scrollToFindAndClickIfExists
  | wait
  deriving DecidableEq, Repr

namespace TaskKind

/-- All kinds. -/
def all : List TaskKind :=
  [.command, .hasPackageInForeground, .hasElementInForeground, .click, .clickIfExists,
    .longClick, .press, .longPress, .scrollToFindAndClick, .scrollToFindAndClickIfExists,
    .wait]

/-- The name of a kind in documents. -/
def name : TaskKind → String
  | .command => "COMMAND"
  | .hasPackageInForeground => "HAS_PACKAGE_IN_FOREGROUND"
  | .hasElementInForeground => "HAS_UI_ELEMENT_IN_FOREGROUND"
  | .click => "CLICK"
  | .clickIfExists => "CLICK_IF_EXIST"
  | .longClick => "LONG_CLICK"
  | .press => "PRESS"
  | .longPress => "LONG_PRESS"
  | .scrollToFindAndClick => "SCROLL_TO_FIND_AND_CLICK"
  | .scrollToFindAndClickIfExists => "SCROLL_TO_FIND_AND_CLICK_IF_EXIST"
  | .wait => "WAIT_MS"

/-- The kind with a name. -/
def ofName? (name : String) : Option TaskKind :=
  all.find? (·.name == name)

@[simp] theorem ofName?_name (kind : TaskKind) : ofName? kind.name = some kind := by
  cases kind <;> decide

/-- Whether the task needs a text. -/
def takesText : TaskKind → Bool
  | .command | .hasPackageInForeground | .press | .longPress | .wait => true
  | _ => false

/-- Whether the task needs a way to scroll. -/
def takesScroll : TaskKind → Bool
  | .scrollToFindAndClick | .scrollToFindAndClickIfExists => true
  | _ => false

end TaskKind

end Screenplay
