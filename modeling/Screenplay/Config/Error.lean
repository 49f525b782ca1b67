import Screenplay.Config.Section
import Screenplay.Selector.Kind
import Screenplay.Task.Kind
import Screenplay.Text.Quoted

/-!
# Errors of configurations

What can be wrong with a document, with a layer of a configuration or with a look
up in one.  An error says what is at fault and where; its wording is given once, by
`message`.
-/

namespace Screenplay

/-- What is wrong with the description of an element. -/
inductive SelectorFault where
  | unknownKind (name : String)
  | blankValue (kind : SelectorKind)
  | packageRequired (value : String)
  | packageRefused (kind : SelectorKind) (value package : String)
  | badPattern (kind : SelectorKind) (value : String)
  deriving DecidableEq

namespace SelectorFault

/-- The wording of a fault. -/
def message : SelectorFault → String
  | .unknownKind name =>
      "TYPE " ++ name ++ " is not supported. Supported types: [ " ++
        ", ".intercalate (SelectorKind.all.map SelectorKind.name) ++ " ]"
  | .blankValue kind => kind.name ++ " element requires a non-empty VALUE"
  | .packageRequired value => "RESOURCE_ID element " ++ value ++ " requires a PACKAGE"
  | .packageRefused kind value package =>
      kind.name ++ " element " ++ value ++ " does not accept a PACKAGE (got " ++ package ++ ")"
  | .badPattern kind value =>
      kind.name ++ " value " ++ value ++ " is not a valid pattern: it cannot be read"

end SelectorFault

/-- What is wrong with the description of scrolling. -/
inductive ScrollFault where
  | unknownDirection (name : String)
  | unknownAction (name context : String)
  | notNatural (key written context : String)
  deriving DecidableEq

namespace ScrollFault

/-- The wording of a fault. -/
def message : ScrollFault → String
  | .unknownDirection name => "scroll direction " ++ name ++ " is not supported"
  | .unknownAction name context =>
      "scroll action " ++ name ++ " for " ++ context ++ " is not supported"
  | .notNatural key written context =>
      key ++ " " ++ written ++ " for " ++ context ++ " is not a non-negative integer"

end ScrollFault

/-- What a task needs besides its kind. -/
inductive Payload where
  | text
  | element
  | scroll
  deriving DecidableEq

/-- Where a document holds a part of the payload. -/
def Payload.place : Payload → String
  | .text => "CONFIG.TEXT"
  | .element => "CONFIG.UI_ELEMENT"
  | .scroll => "SCROLL_CONFIG"

/-- What is wrong with a task. -/
inductive TaskFault where
  | unknownKind (name : String)
  | elementForText (kind : TaskKind)
  | textForElement (kind : TaskKind)
  | scrollRefused (kind : TaskKind)
  | required (kind : TaskKind) (payload : Payload)
  deriving DecidableEq

namespace TaskFault

/-- The wording of a fault. -/
def message : TaskFault → String
  | .unknownKind name => "task type " ++ name ++ " is not supported"
  | .elementForText kind => kind.name ++ " task takes CONFIG.TEXT, not CONFIG.UI_ELEMENT"
  | .textForElement kind => kind.name ++ " task takes CONFIG.UI_ELEMENT, not CONFIG.TEXT"
  | .scrollRefused kind => kind.name ++ " task does not accept SCROLL_CONFIG"
  | .required kind payload => kind.name ++ " task requires " ++ payload.place

end TaskFault

/-- What is wrong with a configuration, or with a question to it. -/
inductive ConfigError where
  | missingKey (part : Section) (name : String)
  | unknownKeys (part : Section) (names : List String)
  | unknownProperties (context : String) (names : List String)
  | missingProperty (context property : String)
  | invalidSelector (fault : SelectorFault)
  | invalidScroll (fault : ScrollFault)
  /-- A fault of a task, with the place of the task where it is known. -/
  | invalidTask (place : Option String) (fault : TaskFault)
  | invalidValue (context value reason : String)
  | unreadable (path : String)
  | emptyFile (path : String)
  | notJson
  deriving DecidableEq

namespace ConfigError

/-- What is known of the failure behind an error, if it has one. -/
def cause? : ConfigError → Option String
  | .unreadable _ => some "not a file with text in UTF-8"
  | .notJson => some "malformed document"
  | _ => none

/-- The wording of an error. -/
def message (error : ConfigError) : String :=
  match error with
  | .missingKey part name => "Config does not have " ++ part.name ++ " with key " ++ name
  | .unknownKeys part names =>
      "Unknown keys in runtime config for " ++ part.name ++ ": " ++ ", ".intercalate names
  | .unknownProperties context names =>
      "Unknown properties [ " ++ ", ".intercalate names ++ " ] for " ++ context
  | .missingProperty context property =>
      "Property " ++ property ++ " for " ++ context ++ " is missing or invalid"
  | .invalidSelector fault => "Invalid UI element: " ++ fault.message
  | .invalidScroll fault => "Invalid scroll config: " ++ fault.message
  | .invalidTask place fault =>
      "Invalid workflow task: " ++ ((place.map (· ++ ": ")).getD "") ++ fault.message
  | .invalidValue context value reason =>
      "Invalid value " ++ Text.quote value ++ " for " ++ context ++ ": " ++ reason
  | .unreadable path => "Unable to read config " ++ path ++ ": " ++ error.cause?.getD ""
  | .emptyFile path => "Config file " ++ path ++ " is empty"
  | .notJson => "Config is not valid JSON: " ++ error.cause?.getD ""

end ConfigError

end Screenplay
