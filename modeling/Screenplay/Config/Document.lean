import Screenplay.Config.Basic
import Screenplay.Json.Reader

/-!
# Reading configurations

A document is read strictly.  Before anything else is looked at in an object, its
member names are checked, and every name that it may not have is reported.  Names
may be padded; where a name is looked up, a member with exactly that name wins over
padded ones, and `null` counts as absent.  Texts are trimmed and may not be blank.

Numbers may be written as JSON numbers or as texts.
-/

namespace Screenplay

namespace Document

/-- The members of an object. -/
abbrev Members := List (String × Json)

/-- The error for a value that is not what it should be. -/
def invalid (context : String) (value : Json) (reason : String) : ConfigError :=
  .invalidValue context value.compact reason

/-- The members of a value that has to be an object. -/
def asObject (context : String) (value : Json) : Except ConfigError Members :=
  match value with
  | .object members => .ok members
  | other => .error (invalid context other "expected a JSON object")

/-- Report the member names that are not among the allowed ones. -/
def checkNames (allowed : List String) (context : String) (members : Members) :
    Except ConfigError Unit :=
  match (members.map fun member => Text.trim member.1).filter (!allowed.contains ·) with
  | [] => .ok ()
  | names => .error (.unknownProperties context names)

/-- The value of a property, unless it is absent. -/
def property? (members : Members) (name : String) : Option Json :=
  let padded := (members.find? fun member => Text.trim member.1 == name).map Prod.snd
  (members.lookup name <|> padded).filter (!·.isNull)

/-- The value of a property that may not be absent. -/
def property (context name : String) (members : Members) : Except ConfigError Json :=
  match property? members name with
  | none => .error (.missingProperty context name)
  | some value => .ok value

/-- A text that is not blank, without its padding. -/
def asText (context : String) (value : Json) : Except ConfigError String :=
  match value.text?.map Text.trim with
  | some text =>
      if text.isEmpty then .error (invalid context value "expected a non-empty string")
      else .ok text
  | none => .error (invalid context value "expected a non-empty string")

/-- The text of a property that may not be absent. -/
def textProperty (context name : String) (members : Members) : Except ConfigError String := do
  let value ← property context name members
  asText (context ++ "." ++ name) value

/-- Apply a reader to a property that may be absent. -/
def optionalProperty {α : Type} (name : String) (members : Members)
    (read : Json → Except ConfigError α) : Except ConfigError (Option α) :=
  match property? members name with
  | none => .ok none
  | some value => some <$> read value

/-- The entries of a section after those that are sorted already.  Names may
neither be blank nor agree without their padding. -/
def sortEntries (part : Section) (sorted : Members) : Members → Except ConfigError Members
  | [] => .ok sorted
  | (padded, value) :: rest =>
      let name := Text.trim padded
      if name.isEmpty then
        .error (invalid part.name value "entry names must not be empty")
      else if (sorted.lookup name).isSome then
        .error (.invalidValue part.name padded "name is defined more than once")
      else
        sortEntries part (insertEntry name value sorted) rest

/-- Read the entries of a section, each with its name and its context. -/
def readEntries {α : Type} (part : Section)
    (read : String → String → Json → Except ConfigError α) (entries : Members) :
    Except ConfigError (NameMap α) :=
  entries.foldlM
    (fun map (name, value) => do
      let value ← read name (part.name ++ "." ++ name) value
      return map.insert name value)
    ∅

/-- Read a section, which may be absent. -/
def readSection {α : Type} (part : Section)
    (read : String → String → Json → Except ConfigError α) (members : Members) :
    Except ConfigError (NameMap α) :=
  match property? members part.name with
  | none => .ok ∅
  | some value => do
      let members ← asObject part.name value
      let entries ← sortEntries part [] members
      readEntries part read entries

/-- The properties of an element. -/
def descriptorNames : List String := ["TYPE", "VALUE", "PACKAGE"]

/-- A package as it is written, blank or not. -/
def asPackage (context : String) (value : Json) : Except ConfigError String :=
  match value with
  | .text package => .ok package
  | other => .error (invalid context other "expected a string")

/-- Read an element. -/
def readDescriptor (context : String) (value : Json) : Except ConfigError Descriptor := do
  let members ← asObject context value
  checkNames descriptorNames context members
  let kind ← SelectorKind.ofName (← textProperty context "TYPE" members)
  let value ← textProperty context "VALUE" members
  let package ← optionalProperty "PACKAGE" members (asPackage (context ++ ".PACKAGE"))
  Descriptor.ofParts kind value package

/-- Read an element that is a property of an object. -/
def descriptorProperty (context name : String) (members : Members) :
    Except ConfigError Descriptor := do
  let value ← property context name members
  readDescriptor (context ++ "." ++ name) value

/-- A number as it is written, without the padding of a text. -/
def numeral : Json → String
  | .number number => number.toText
  | .text text => Text.trim text
  | other => other.compact

/-- Read a natural number of a scroll configuration. -/
def readNatural (context name : String) (limit : Nat) (value : Json) :
    Except ConfigError Nat :=
  match Text.readNat? limit (numeral value) with
  | none => .error (.invalidScroll (.notNatural name (numeral value) context))
  | some natural => .ok natural

/-- The properties of a scroll configuration. -/
def scrollNames : List String :=
  ["SCROLL_ACTION", "SCROLL_DIRECTION", "SCROLL_FORWARD", "SCROLL_BACKWARD",
    "SCROLL_ELEMENT", "SCROLL_MARGIN", "SCROLL_WAIT_TIME"]

/-- Read how a step is made. -/
def readScrollAction (context : String) (members : Members) :
    Except ConfigError ScrollAction := do
  match ← textProperty context "SCROLL_ACTION" members with
  | "USE_BUTTON" => do
      let forward ← descriptorProperty context "SCROLL_FORWARD" members
      let backward ← descriptorProperty context "SCROLL_BACKWARD" members
      return .buttons forward backward
  | "USE_GESTURE" => do
      let axis ← Axis.ofName (← textProperty context "SCROLL_DIRECTION" members)
      let container ← descriptorProperty context "SCROLL_ELEMENT" members
      return .gesture axis container
  | other => throw (.invalidScroll (.unknownAction other context))

/-- Read a scroll configuration. -/
def readScroll (context : String) (value : Json) : Except ConfigError Scroll := do
  let members ← asObject context value
  checkNames scrollNames context members
  let action ← readScrollAction context members
  let margin ← optionalProperty "SCROLL_MARGIN" members
    (readNatural context "SCROLL_MARGIN" (UInt32.size - 1))
  let waitSeconds ← optionalProperty "SCROLL_WAIT_TIME" members
    (readNatural context "SCROLL_WAIT_TIME" (UInt64.size - 1))
  let scroll : Scroll := { action }
  return { scroll with
    margin := (margin.map UInt32.ofNat).getD scroll.margin
    waitSeconds := (waitSeconds.map UInt64.ofNat).getD scroll.waitSeconds }

/-- The count that a value stands for. -/
def count? : Json → Option Nat
  | .number (.natural value) => if value.toNat < UInt32.size then some value.toNat else none
  | .text text => Text.readNat? (UInt32.size - 1) (Text.trim text)
  | _ => none

/-- Read how often a task is repeated. -/
def readRepeatCount (context : String) (members : Members) : Except ConfigError UInt32 :=
  match property? members "REPEAT_COUNT" with
  | none => .ok Task.defaultRepeatCount
  | some value =>
      match count? value with
      | none =>
          .error (invalid (context ++ ".REPEAT_COUNT") value "expected a non-negative integer")
      | some count => .ok (UInt32.ofNat count)

/-- The properties of a task. -/
def taskNames : List String := ["NAME", "TYPE", "CONFIG", "REPEAT_COUNT", "SCROLL_CONFIG"]

/-- The properties of the payload of a task. -/
def payloadNames : List String := ["TEXT", "UI_ELEMENT"]

/-- Read the text and the element of a payload. -/
def readPayload (context : String) (members : Members) :
    Except ConfigError (Option String × Option Descriptor) := do
  checkNames payloadNames context members
  let text ← optionalProperty "TEXT" members (asText (context ++ ".TEXT"))
  let element ← optionalProperty "UI_ELEMENT" members
    (readDescriptor (context ++ ".UI_ELEMENT"))
  return (text, element)

/-- Read a task of a workflow.  Once its name is known it is part of the context. -/
def readTask (place : String) (value : Json) : Except ConfigError Task := do
  let members ← asObject place value
  checkNames taskNames place members
  let name ← textProperty place "NAME" members
  let context := place ++ " (" ++ name ++ ")"
  let kind ← TaskKind.ofName (← textProperty context "TYPE" members)
  let payload ← asObject context (← property context "CONFIG" members)
  let (text, element) ← readPayload (context ++ ".CONFIG") payload
  let scroll ← optionalProperty "SCROLL_CONFIG" members
    (readScroll (context ++ ".SCROLL_CONFIG"))
  let action ← (Action.ofPayload kind text element scroll).mapError
    (.invalidTask (some context))
  let repeatCount ← readRepeatCount context members
  return { name, action, repeatCount }

/-- Read the tasks of a workflow, the first of which has the given index. -/
def readTasks (context : String) (index : Nat) : List Json → Except ConfigError (List Task)
  | [] => .ok []
  | item :: rest => do
      let task ← readTask (context ++ "[" ++ toString index ++ "]") item
      let tasks ← readTasks context (index + 1) rest
      return task :: tasks

/-- Read a workflow. -/
def readWorkflow (name context : String) (value : Json) : Except ConfigError Workflow :=
  match value with
  | .array items => do
      let tasks ← readTasks context 0 items
      return { name, tasks }
  | other => .error (invalid context other "a workflow must be an array of tasks")

/-- Read a text of a section. -/
def readText (_name context : String) (value : Json) : Except ConfigError String :=
  asText context value

/-- Read an element of a section. -/
def readElement (_name context : String) (value : Json) : Except ConfigError Descriptor :=
  readDescriptor context value

end Document

namespace Config

open Document

/-- Read a configuration from a JSON value. -/
def ofJson (value : Json) : Except ConfigError Config := do
  let members ← asObject "config" value
  checkNames (Section.all.map Section.name) "config" members
  let commands ← readSection .commands readText members
  let packages ← readSection .packages readText members
  let actions ← readSection .actions readText members
  let elements ← readSection .elements readElement members
  let workflows ← readSection .workflows readWorkflow members
  return { store := { commands, packages, actions, elements }, workflows }

/-- Read a configuration from a JSON document. -/
def ofText (document : String) : Except ConfigError Config :=
  match Json.read? document with
  | none => .error .notJson
  | some value => ofJson value

end Config

end Screenplay
