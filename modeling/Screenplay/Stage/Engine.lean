import Screenplay.Script.Engine
import Screenplay.Stage.Basic

/-!
# Stages as engines

A stage answers the requests of scripts.  It never waits itself, and it keeps a
record of what it was asked for.  Which call of a kind is rejected is part of the
stage; a rejected call is recorded and counted but has no effect.
-/

namespace Screenplay

/-- The kinds of calls that are counted. -/
inductive CallKind where
  | find
  | click
  | longClick
  | scroll
  | shell
  | key
  | wakeUp
  | foreground
  | screen
  | dump
  deriving DecidableEq, Repr

namespace CallKind

/-- The name of a kind. -/
def name : CallKind → String
  | .find => "find"
  | .click => "click"
  | .longClick => "long_click"
  | .scroll => "scroll"
  | .shell => "shell"
  | .key => "key"
  | .wakeUp => "wake_up"
  | .foreground => "foreground"
  | .screen => "screen"
  | .dump => "dump"

/-- Whether a call is an action on the device. -/
def isAction : CallKind → Bool
  | .click | .longClick | .scroll | .shell | .key | .wakeUp => true
  | .find | .foreground | .screen | .dump => false

end CallKind

/-- The kind of call that a request is. -/
def Request.callKind : Request → CallKind
  | .find .. => .find
  | .findAll .. => .find
  | .click _ => .click
  | .longClick _ => .longClick
  | .scroll .. => .scroll
  | .shell _ => .shell
  | .pressKey _ => .key
  | .wakeUp => .wakeUp
  | .isForeground _ => .foreground
  | .screenBounds => .screen
  | .dump => .dump

namespace Scene

/-- The number of calls of a kind. -/
def count (scene : Scene) (kind : CallKind) : Nat :=
  (scene.counts.get? kind.name).getD 0

/-- Record a call and count it. -/
def call (scene : Scene) (kind : CallKind) (line : String) : Scene :=
  { scene with
    record := line :: scene.record
    counts := scene.counts.insert kind.name (scene.count kind + 1) }

/-- Count an action, if a call is one. -/
def act (scene : Scene) (kind : CallKind) : Scene :=
  if kind.isAction then { scene with actions := scene.actions + 1 } else scene

end Scene

namespace Stage

/-- A look-up as it stands in the record. -/
def searchLine (verb : String) (selector : Selector) (root : Option Element)
    (timeout : Option Duration) (result : String) : String :=
  verb ++ " " ++ selector.display ++
    " root=" ++ (root.map (·.handle)).getD "-" ++
    " timeout=" ++ (timeout.map (·.display)).getD "-" ++ " -> " ++ result

/-- A request as it stands in the record. -/
def line (stage : Stage) (scene : Scene) : Request → String
  | .find selector root timeout =>
      searchLine "find" selector root timeout
        (((stage.search selector root scene).head?.map (·.handle)).getD "-")
  | .findAll selector root timeout =>
      searchLine "find_all" selector root timeout
        (toString (stage.search selector root scene).length)
  | .click element => "click " ++ element.handle
  | .longClick element => "long_click " ++ element.handle
  | .scroll container direction margin =>
      "scroll " ++ container.handle ++ " " ++ direction.name ++ " " ++ toString margin.toNat
  | .shell command => "shell " ++ command
  | .pressKey code => "key " ++ toString code.toNat
  | .wakeUp => "wake_up"
  | .isForeground package => "foreground " ++ package
  | .screenBounds => "screen"
  | .dump => "dump"

/-- What a request does, and its answer. -/
def effect (stage : Stage) (scene : Scene) : (request : Request) → request.Answer × Scene
  | .find selector root _ => ((stage.search selector root scene).head?, scene)
  | .findAll selector root _ => (stage.search selector root scene, scene)
  | .click element => ((), stage.click element.handle scene)
  | .longClick _ => ((), scene)
  | .scroll container direction _ => ((), stage.swipe container.handle direction scene)
  | .shell command => ((stage.outputs.get? command).getD "", scene)
  | .pressKey _ => ((), scene)
  | .wakeUp => ((), scene)
  | .isForeground package => (scene.foreground == package, scene)
  | .screenBounds => (stage.screen, scene)
  | .dump =>
      let scene := { scene with dumps := scene.dumps + 1 }
      (stage.dumpText scene, scene)

/-- Answer a request, or reject it. -/
def answer (stage : Stage) (request : Request) (scene : Scene) :
    Except RunError request.Answer × Scene :=
  let kind := request.callKind
  let scene := scene.call kind (stage.line scene request)
  if stage.rejected.get? kind.name = some (scene.count kind) then
    (.error (.platform (kind.name ++ " " ++ toString (scene.count kind) ++ " rejected")), scene)
  else
    let (result, scene) := stage.effect (scene.act kind) request
    (.ok result, scene)

/-- Record that time passes. -/
def wait (duration : Duration) (scene : Scene) : Scene :=
  { scene with record := ("wait " ++ duration.display) :: scene.record }

/-- The stage as an engine. -/
def engine (stage : Stage) : Engine Scene :=
  { answer := stage.answer, wait := Stage.wait }

end Stage

end Screenplay
