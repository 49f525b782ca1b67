import Screenplay.NameMap
import Screenplay.Task.Basic

/-!
# Configurations

A configuration gives names to commands, packages, actions, elements and workflows.
The first four make up its store.

Configurations are layered in two ways.  A lenient layer, `merge`, may define new
names.  A strict layer, `override`, may only give new values to names that are
defined; every section is checked before anything changes.
-/

namespace Screenplay

/-- The section with a name that may be padded. -/
def Section.ofName (name : String) : Except ConfigError Section :=
  match Section.ofName? (Text.trim name) with
  | none => .error (.unknownProperties "config" [Text.trim name])
  | some part => .ok part

/-- A value of the store. -/
inductive StoreValue where
  | text (text : String)
  | element (element : Descriptor)
  deriving DecidableEq

namespace StoreValue

/-- The value as it stands in messages. -/
def display : StoreValue → String
  | .text value => value
  | .element value => value.display

/-- The value in the form of documents. -/
def toJson : StoreValue → Json
  | .text value => Json.text value
  | .element value => value.toJson

end StoreValue

/-- The names of one section that a strict layer may not define. -/
def checkKnown {α : Type} (part : Section) (current layer : NameMap α) :
    Except ConfigError Unit :=
  match current.unknownNames layer with
  | [] => .ok ()
  | names => .error (.unknownKeys part names)

/-- The value of a name, which has to have one. -/
def NameMap.get {α : Type} (map : NameMap α) (part : Section) (name : String) :
    Except ConfigError α :=
  match map.get? name with
  | none => .error (.missingKey part name)
  | some value => .ok value

/-- The sections with values. -/
structure Store where
  commands : NameMap String := ∅
  packages : NameMap String := ∅
  actions : NameMap String := ∅
  elements : NameMap Descriptor := ∅

namespace Store

/-- Define a command. -/
def insertCommand (store : Store) (name command : String) : Store :=
  { store with commands := store.commands.insert name command }

/-- Define a package. -/
def insertPackage (store : Store) (name package : String) : Store :=
  { store with packages := store.packages.insert name package }

/-- Define an action. -/
def insertAction (store : Store) (name action : String) : Store :=
  { store with actions := store.actions.insert name action }

/-- Define an element. -/
def insertElement (store : Store) (name : String) (element : Descriptor) : Store :=
  { store with elements := store.elements.insert name element }

/-- The value of a name in a section.  Workflows are not part of the store. -/
def get (store : Store) (part : Section) (name : String) : Except ConfigError StoreValue :=
  match part with
  | .commands => .text <$> store.commands.get .commands name
  | .packages => .text <$> store.packages.get .packages name
  | .actions => .text <$> store.actions.get .actions name
  | .elements => .element <$> store.elements.get .elements name
  | .workflows => .error (.missingKey .workflows name)

/-- The command with a name. -/
def command (store : Store) (name : String) : Except ConfigError String :=
  store.commands.get .commands name

/-- The package with a name. -/
def package (store : Store) (name : String) : Except ConfigError String :=
  store.packages.get .packages name

/-- The action with a name. -/
def action (store : Store) (name : String) : Except ConfigError String :=
  store.actions.get .actions name

/-- The element with a name. -/
def element (store : Store) (name : String) : Except ConfigError Descriptor :=
  store.elements.get .elements name

/-- The query for the element with a name. -/
def selector (store : Store) (name : String) : Except ConfigError Selector :=
  (·.query) <$> store.element name

/-- The names of a section, in increasing order. -/
def names (store : Store) : Section → List String
  | .commands => store.commands.names
  | .packages => store.packages.names
  | .actions => store.actions.names
  | .elements => store.elements.names
  | .workflows => []

/-- The number of names of a section. -/
def size (store : Store) : Section → Nat
  | .commands => store.commands.size
  | .packages => store.packages.size
  | .actions => store.actions.size
  | .elements => store.elements.size
  | .workflows => 0

/-- Whether no section has a name. -/
def isEmpty (store : Store) : Bool :=
  Section.values.all fun part => store.size part == 0

/-- Check that a layer only defines names that the store has. -/
def checkOverride (store layer : Store) : Except ConfigError Unit := do
  checkKnown .commands store.commands layer.commands
  checkKnown .packages store.packages layer.packages
  checkKnown .actions store.actions layer.actions
  checkKnown .elements store.elements layer.elements

/-- Take over every value of a layer. -/
def merge (store layer : Store) : Store :=
  { commands := store.commands.merge layer.commands
    packages := store.packages.merge layer.packages
    actions := store.actions.merge layer.actions
    elements := store.elements.merge layer.elements }

/-- Take over every value of a layer that only defines known names. -/
def override (store layer : Store) : Except ConfigError Store := do
  store.checkOverride layer
  return store.merge layer

end Store

/-- A store together with workflows. -/
structure Config where
  store : Store := {}
  workflows : NameMap Workflow := ∅

namespace Config

/-- The workflow with a name. -/
def workflow (config : Config) (name : String) : Except ConfigError Workflow :=
  config.workflows.get .workflows name

/-- Define a workflow under its own name. -/
def insertWorkflow (config : Config) (workflow : Workflow) : Config :=
  { config with workflows := config.workflows.insert workflow.name workflow }

/-- Whether nothing is defined. -/
def isEmpty (config : Config) : Bool :=
  config.store.isEmpty && config.workflows.isEmpty

/-- Take over every definition of a layer. -/
def merge (config layer : Config) : Config :=
  { store := config.store.merge layer.store
    workflows := config.workflows.merge layer.workflows }

/-- Check that a layer only defines names that the configuration has. -/
def checkOverride (config layer : Config) : Except ConfigError Unit := do
  config.store.checkOverride layer.store
  checkKnown .workflows config.workflows layer.workflows

/-- Take over every definition of a layer that only defines known names. -/
def override (config layer : Config) : Except ConfigError Config := do
  config.checkOverride layer
  return config.merge layer

end Config

end Screenplay
