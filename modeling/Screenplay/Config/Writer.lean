import Screenplay.Config.Basic

/-!
# Writing configurations

A configuration is written as one document, in the form in which it is read: each
section is an object from names to values, and a workflow is the array of its
tasks.
-/

namespace Screenplay

/-- The entries of a map as members of an object. -/
def NameMap.toMembers {α : Type} (map : NameMap α) (write : α → Json) :
    List (String × Json) :=
  map.entries.map fun (name, value) => (name, write value)

/-- The sections of a store. -/
def Store.toMembers (store : Store) : List (String × Json) :=
  [("COMMANDS", .object (store.commands.toMembers .text)),
    ("PACKAGES", .object (store.packages.toMembers .text)),
    ("ACTIONS", .object (store.actions.toMembers .text)),
    ("UI_ELEMENTS", .object (store.elements.toMembers Descriptor.toJson))]

/-- A store as a JSON object. -/
def Store.toJson (store : Store) : Json :=
  .object store.toMembers

/-- The array of the tasks of a workflow. -/
def Workflow.tasksJson (workflow : Workflow) : Json :=
  .array (workflow.tasks.map Task.toJson)

/-- A configuration as one document. -/
def Config.toJson (config : Config) : Json :=
  .object <|
    config.store.toMembers ++
      [("WORKFLOWS", .object (config.workflows.toMembers Workflow.tasksJson))]

end Screenplay
