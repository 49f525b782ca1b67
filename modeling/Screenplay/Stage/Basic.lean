import Screenplay.NameMap
import Screenplay.Scroll

/-!
# Stages

A stage is a device that plays a part: some figures that stay where they are, a
list of which one page is shown at a time, and the ways in which the list moves.
Figures come and go as actions are carried out.

What a stage shows follows from the stage and its state.  The offset of the state
is the number of items of the list before the page.
-/

namespace Screenplay

/-- An element of a stage. -/
structure Figure where
  element : Element
  /-- The handle of the element that it is inside. -/
  parent : Option String := none
  /-- The number of actions before it comes. -/
  arrives : Nat := 0
  /-- The number of actions before it goes, if it goes. -/
  leaves : Option Nat := none
  deriving DecidableEq

namespace Figure

/-- Whether a figure is there after some actions. -/
def present (figure : Figure) (actions : Nat) : Bool :=
  decide (figure.arrives ≤ actions) && figure.leaves.all fun leaves => decide (actions < leaves)

/-- A row of a list of titles. -/
def row (index : Nat) : Figure :=
  let element : Element :=
    { handle := "item-" ++ toString index
      text := some ("Item " ++ toString index)
      clickable := true
      longClickable := true }
  { element := element.withResource "com.app" "title" }

end Figure

/-- What does not change about a stage. -/
structure Stage where
  /-- The figures that do not move, in order. -/
  fixed : List Figure := []
  /-- The figures of the list, in order. -/
  items : List Figure := []
  /-- The handle of the element that items are inside, where nothing else is said. -/
  itemsParent : Option String := none
  /-- How many items are shown at a time. -/
  pageSize : Nat := 4
  /-- How many items the list moves by. -/
  stride : Nat := 1
  /-- The only axis along which swipes move the list. -/
  axis : Option Axis := none
  /-- The handles of the only elements on which swipes move the list. -/
  movers : Option (List String) := none
  /-- The handle of the button that moves the list forward. -/
  forward : Option String := none
  /-- The handle of the button that moves the list backward. -/
  backward : Option String := none
  /-- Whether the buttons are disabled where they would not move the list. -/
  autoDisable : Bool := false
  screen : Bounds := ⟨0, 0, 1080, 1920⟩
  /-- The outputs of shell commands; others print nothing. -/
  outputs : NameMap String := ∅
  /-- How many dumps differ from each other although nothing moves. -/
  ticks : Nat := 0
  /-- For a kind of call, which of its calls is rejected. -/
  rejected : NameMap Nat := ∅

/-- What changes about a stage. -/
structure Scene where
  offset : Nat := 0
  foreground : String := "com.app"
  /-- The number of actions carried out. -/
  actions : Nat := 0
  /-- The number of dumps made. -/
  dumps : Nat := 0
  /-- The number of calls made of each kind. -/
  counts : NameMap Nat := ∅
  /-- What was asked of the stage, newest first. -/
  record : List String := []

namespace Stage

/-- The offset at which the last page is shown. -/
def lastOffset (stage : Stage) : Nat :=
  stage.items.length - stage.pageSize

/-- An element as it looks at an offset: a button may be disabled. -/
def present (stage : Stage) (offset : Nat) (element : Element) : Element :=
  if !stage.autoDisable then element
  else if stage.forward = some element.handle then
    { element with enabled := decide (offset < stage.lastOffset) }
  else if stage.backward = some element.handle then
    { element with enabled := decide (0 < offset) }
  else element

/-- The items of the page at an offset, each with a parent if it has one. -/
def page (stage : Stage) (offset : Nat) : List Figure :=
  ((stage.items.drop offset).take stage.pageSize).map fun item =>
    { item with parent := item.parent <|> stage.itemsParent }

/-- The figures that are shown, in order. -/
def visible (stage : Stage) (scene : Scene) : List Figure :=
  ((stage.fixed ++ stage.page scene.offset).filter (·.present scene.actions)).map
    fun figure => { figure with element := stage.present scene.offset figure.element }

/-- Whether the chain of parents from a handle on holds the given one.  A chain that
does not come back to a handle is no longer than the list of fixed figures. -/
def reaches (stage : Stage) (root : String) : Nat → Option String → Bool
  | 0, _ => false
  | _, none => false
  | steps + 1, some handle =>
      handle == root ||
        stage.reaches root steps
          ((stage.fixed.find? (·.element.handle == handle)).bind (·.parent))

/-- Whether a figure is inside an element. -/
def inside (stage : Stage) (root : Option Element) (figure : Figure) : Bool :=
  root.all fun root => stage.reaches root.handle (stage.fixed.length + 1) figure.parent

/-- The shown elements that a selector means, in order. -/
def search (stage : Stage) (selector : Selector) (root : Option Element) (scene : Scene) :
    List Element :=
  ((stage.visible scene).filter (stage.inside root)).map (·.element)
    |>.filter selector.accepts

/-- Move the list towards its end. -/
def moveForward (stage : Stage) (scene : Scene) : Scene :=
  if scene.offset < stage.lastOffset then
    { scene with offset := min (scene.offset + stage.stride) stage.lastOffset }
  else scene

/-- Move the list towards its beginning. -/
def moveBackward (stage : Stage) (scene : Scene) : Scene :=
  { scene with offset := scene.offset - stage.stride }

/-- The effect of a click. -/
def click (stage : Stage) (handle : String) (scene : Scene) : Scene :=
  if stage.forward = some handle then stage.moveForward scene
  else if stage.backward = some handle then stage.moveBackward scene
  else scene

/-- Whether a swipe moves the list. -/
def swipeMoves (stage : Stage) (handle : String) (direction : Direction) : Bool :=
  (stage.axis.all fun axis => direction == axis.forward || direction == axis.backward) &&
    stage.movers.all (·.contains handle)

/-- The effect of a swipe. -/
def swipe (stage : Stage) (handle : String) (direction : Direction) (scene : Scene) : Scene :=
  if stage.swipeMoves handle direction then
    match direction with
    | .down | .right => stage.moveForward scene
    | .up | .left => stage.moveBackward scene
  else scene

/-- The text that tells what is shown, and sometimes how often it was asked for. -/
def dumpText (stage : Stage) (scene : Scene) : String :=
  let rows := (stage.visible scene).map fun figure =>
    figure.element.handle ++ "|" ++ toString figure.element.enabled
  "\n".intercalate (rows ++ ["#" ++ toString (min scene.dumps stage.ticks)])

end Stage

end Screenplay
