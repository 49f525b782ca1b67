import Screenplay.Config.Basic
import Screenplay.Workflow.Search

/-!
# Carrying out workflows

The tasks of a workflow are carried out in order, each as often as it says, until
one fails.  There is a pause after every time that a task succeeds.  The failure of
a task names the task and its workflow.
-/

namespace Screenplay

/-- How workflows are carried out. -/
structure Executor where
  device : Device := {}
  search : Search := {}
  /-- The pause after a task. -/
  taskPause : Duration := .ofSeconds 1

namespace Executor

/-- Press a key. -/
def press : Key → Script Unit
  | .code value => Device.pressKey value
  | .power => Device.pressPower
  | .home => Device.pressHome
  | .back => Device.pressBack
  | .wakeUp => Device.wakeUp
  | .screenCenter =>
      .fail (.unsupportedOperation ("press is not supported for " ++ Key.screenCenter.name))

/-- Hold a key. -/
def longPress (executor : Executor) (key : Key) : Script Unit :=
  match key with
  | .code value => executor.device.longPressKey value
  | .power => executor.device.longPressPower
  | .screenCenter => executor.device.longPressScreenCenter
  | .home | .back | .wakeUp =>
      .fail (.unsupportedOperation ("long press is not supported for " ++ key.name))

/-- Click an element that was looked for.  If it was not found, that is an error
unless the click is optional. -/
def clickFound (executor : Executor) (found : Option Element) (optional : Bool)
    (missing : String) : Script Unit :=
  match found with
  | some target => executor.device.clickAndWait target
  | none => if optional then return () else .fail (.missingElement missing)

/-- Look for an element on the screen, then by scrolling. -/
def findByScrolling (executor : Executor) (element : Descriptor) (scroll : Scroll) :
    Script (Option Element) := do
  match ← executor.device.find element.query with
  | some target => return some target
  | none => executor.search.find scroll element.query ("find " ++ element.display)

/-- Let the time pass that a text says. -/
def wait (seconds : String) : Script Unit :=
  match Text.readNat? (UInt64.size - 1) (Text.trim seconds) with
  | some seconds => Device.waitSeconds seconds
  | none =>
      .fail (.invalidValue
        ("wait time " ++ seconds ++ " is not a non-negative number of seconds"))

/-- Carry out an action once. -/
def perform (executor : Executor) : Action → Script Unit
  | .command command => do
      let _output ← Device.runShellCommand command
  | .hasPackageInForeground package => do
      if ← Device.hasPackageInForeground package then
        return ()
      else
        .fail (.conditionNotMet ("package " ++ package ++ " is not in foreground"))
  | .hasElementInForeground element => do
      if ← executor.device.hasElement element.query then
        return ()
      else
        .fail (.missingElement (element.display ++ " is not in foreground"))
  | .click element optional => do
      let found ← executor.device.find element.query
      executor.clickFound found optional element.display
  | .longClick element => do
      match ← executor.device.find element.query with
      | some target => executor.device.longClick target
      | none => .fail (.missingElement element.display)
  | .scrollToFindAndClick element scroll optional => do
      let found ← executor.findByScrolling element scroll
      executor.clickFound found optional (element.display ++ " not found after scrolling")
  | .press key =>
      match Key.ofText key with
      | .ok key => press key
      | .error error => .fail error
  | .longPress key =>
      match Key.ofText key with
      | .ok key => executor.longPress key
      | .error error => .fail error
  | .wait seconds => wait seconds

/-- Carry out a task once and pause. -/
def performTask (executor : Executor) (workflow : String) (task : Task) : Script Unit := do
  (executor.perform task.action).mapError
    (.taskFailed task.name task.action.kind.name workflow)
  Script.pause executor.taskPause

/-- Carry out a script again and again. -/
def repeated (script : Script Unit) : Nat → Script Unit
  | 0 => return ()
  | times + 1 => do
      script
      repeated script times

/-- Carry out a task as often as it says. -/
def runTask (executor : Executor) (workflow : String) (task : Task) : Script Unit :=
  repeated (executor.performTask workflow task) (task.repeatCount.toNat + 1)

/-- Carry out tasks in order. -/
def runTasks (executor : Executor) (workflow : String) : List Task → Script Unit
  | [] => return ()
  | task :: tasks => do
      executor.runTask workflow task
      executor.runTasks workflow tasks

/-- Carry out the workflow with a name. -/
def runWorkflow (executor : Executor) (config : Config) (name : String) : Script Unit := do
  let workflow ← Script.ofConfig (config.workflow name)
  executor.runTasks name workflow.tasks

end Executor

end Screenplay
