import Screenplay.Scroll

/-!
# Tasks

A task is one step of a workflow.  Its action holds exactly what the kind of the
task needs, so that a task that exists can be carried out without further checks of
its shape.  `Action.ofPayload` makes an action of loosely given parts and refuses
those that do not fit the kind.
-/

namespace Screenplay

/-- The kind of task with a name that may be padded. -/
def TaskKind.ofName (name : String) : Except ConfigError TaskKind :=
  match TaskKind.ofName? (Text.trim name) with
  | none => .error (.invalidTask none (.unknownKind (Text.trim name)))
  | some kind => .ok kind

/-- What a task does. -/
inductive Action where
  | command (command : String)
  | hasPackageInForeground (package : String)
  | hasElementInForeground (element : Descriptor)
  /-- An optional click does nothing when the element is absent. -/
  | click (element : Descriptor) (optional : Bool)
  | longClick (element : Descriptor)
  | press (key : String)
  | longPress (key : String)
  | scrollToFindAndClick (element : Descriptor) (scroll : Scroll) (optional : Bool)
  /-- The number of seconds is a text until the task is carried out. -/
  | wait (seconds : String)
  deriving DecidableEq

namespace Action

/-- The kind of task that does this. -/
def kind : Action → TaskKind
  | .command _ => .command
  | .hasPackageInForeground _ => .hasPackageInForeground
  | .hasElementInForeground _ => .hasElementInForeground
  | .click _ false => .click
  | .click _ true => .clickIfExists
  | .longClick _ => .longClick
  | .press _ => .press
  | .longPress _ => .longPress
  | .scrollToFindAndClick _ _ false => .scrollToFindAndClick
  | .scrollToFindAndClick _ _ true => .scrollToFindAndClickIfExists
  | .wait _ => .wait

/-- The text of a task that has one. -/
def text? : Action → Option String
  | .command text | .hasPackageInForeground text | .press text | .longPress text
  | .wait text => some text
  | _ => none

/-- The element of a task that has one. -/
def element? : Action → Option Descriptor
  | .hasElementInForeground element | .click element _ | .longClick element
  | .scrollToFindAndClick element _ _ => some element
  | _ => none

/-- The way to scroll of a task that has one. -/
def scroll? : Action → Option Scroll
  | .scrollToFindAndClick _ scroll _ => some scroll
  | _ => none

/-- A part of the payload that a task cannot do without. -/
def require {α : Type} (kind : TaskKind) (payload : Payload) (part : Option α) :
    Except TaskFault α :=
  match part with
  | none => .error (.required kind payload)
  | some part => .ok part

/-- The action of a kind of task with the given payload.  The text may be padded,
and a blank one counts as none. -/
def ofPayload (kind : TaskKind) (text : Option String) (element : Option Descriptor)
    (scroll : Option Scroll) : Except TaskFault Action := do
  let text := (text.map Text.trim).filter (!·.isEmpty)
  if kind.takesText && element.isSome then
    throw (.elementForText kind)
  if !kind.takesText && text.isSome then
    throw (.textForElement kind)
  if !kind.takesScroll && scroll.isSome then
    throw (.scrollRefused kind)
  match kind with
  | .command => .command <$> require kind .text text
  | .hasPackageInForeground => .hasPackageInForeground <$> require kind .text text
  | .press => .press <$> require kind .text text
  | .longPress => .longPress <$> require kind .text text
  | .wait => .wait <$> require kind .text text
  | .hasElementInForeground => .hasElementInForeground <$> require kind .element element
  | .click => (.click · false) <$> require kind .element element
  | .clickIfExists => (.click · true) <$> require kind .element element
  | .longClick => .longClick <$> require kind .element element
  | .scrollToFindAndClick => do
      let element ← require kind .element element
      let scroll ← require kind .scroll scroll
      return .scrollToFindAndClick element scroll false
  | .scrollToFindAndClickIfExists => do
      let element ← require kind .element element
      let scroll ← require kind .scroll scroll
      return .scrollToFindAndClick element scroll true

end Action

/-- How often a task is repeated unless a number is given. -/
def Task.defaultRepeatCount : UInt32 := 0

/-- One step of a workflow. -/
structure Task where
  name : String
  action : Action
  /-- How many more times the task is carried out after the first. -/
  repeatCount : UInt32 := Task.defaultRepeatCount
  deriving DecidableEq

namespace Task

/-- The payload of an action in the form of documents. -/
def payloadJson (action : Action) : Json :=
  .object <|
    Element.optionalMember "TEXT" action.text? ++
      (action.element?.map fun element => ("UI_ELEMENT", element.toJson)).toList

/-- The task in the form of documents. -/
def toJson (task : Task) : Json :=
  .object <|
    [("NAME", Json.text task.name),
      ("TYPE", Json.text task.action.kind.name),
      ("CONFIG", payloadJson task.action),
      ("REPEAT_COUNT", Json.ofNat task.repeatCount.toNat)] ++
      (task.action.scroll?.map fun scroll => ("SCROLL_CONFIG", scroll.toJson)).toList

end Task

/-- A named list of tasks. -/
structure Workflow where
  name : String
  tasks : List Task
  deriving DecidableEq

/-- The workflow with its name and tasks. -/
def Workflow.toJson (workflow : Workflow) : Json :=
  .object
    [("NAME", .text workflow.name), ("TASKS", .array (workflow.tasks.map Task.toJson))]

end Screenplay
