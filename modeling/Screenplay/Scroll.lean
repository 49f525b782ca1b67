import Screenplay.Selector.Descriptor

/-!
# Scrolling

How a screen is scrolled by one step: by clicking one of two buttons, or by a swipe
on a container.  Forward is the way towards later content.
-/

namespace Screenplay

/-- The direction of a swipe, by the content that it reveals. -/
inductive Direction where
  | up
  | down
  | left
  | right
  deriving DecidableEq, Repr

/-- The name of a direction. -/
def Direction.name : Direction → String
  | .up => "up"
  | .down => "down"
  | .left => "left"
  | .right => "right"

/-- The axis along which a container scrolls. -/
inductive Axis where
  | vertical
  | horizontal
  deriving DecidableEq, Repr

namespace Axis

/-- The name of an axis in documents. -/
def name : Axis → String
  | .vertical => "VERTICAL"
  | .horizontal => "HORIZONTAL"

/-- The axis with a name that may be padded. -/
def ofName (name : String) : Except ConfigError Axis :=
  match Text.trim name with
  | "VERTICAL" => .ok .vertical
  | "HORIZONTAL" => .ok .horizontal
  | other => .error (.invalidScroll (.unknownDirection other))

/-- The swipe that reveals later content. -/
def forward : Axis → Direction
  | .vertical => .down
  | .horizontal => .right

/-- The swipe that reveals earlier content. -/
def backward : Axis → Direction
  | .vertical => .up
  | .horizontal => .left

end Axis

/-- How one step is made. -/
inductive ScrollAction where
  /-- Click the button for the direction. -/
  | buttons (forward backward : Descriptor)
  /-- Swipe on a container. -/
  | gesture (axis : Axis) (container : Descriptor)
  deriving DecidableEq

namespace Scroll

/-- The margin unless another one is given. -/
def defaultMargin : UInt32 := 10

/-- The waiting time unless another one is given. -/
def defaultWaitSeconds : UInt64 := 1

end Scroll

/-- How a screen is scrolled. -/
structure Scroll where
  action : ScrollAction
  /-- The pixels kept clear at each edge of a container. -/
  margin : UInt32 := Scroll.defaultMargin
  /-- The seconds for the screen to settle after a step. -/
  waitSeconds : UInt64 := Scroll.defaultWaitSeconds
  deriving DecidableEq

namespace ScrollAction

/-- The members of the form of documents that say how a step is made. -/
def toMembers : ScrollAction → List (String × Json)
  | .buttons forward backward =>
      [("SCROLL_ACTION", .text "USE_BUTTON"),
        ("SCROLL_FORWARD", forward.toJson),
        ("SCROLL_BACKWARD", backward.toJson)]
  | .gesture axis container =>
      [("SCROLL_ACTION", .text "USE_GESTURE"),
        ("SCROLL_DIRECTION", .text axis.name),
        ("SCROLL_ELEMENT", container.toJson)]

end ScrollAction

/-- The form of documents, in which the two numbers are texts. -/
def Scroll.toJson (scroll : Scroll) : Json :=
  .object <|
    scroll.action.toMembers ++
      [("SCROLL_MARGIN", .text (toString scroll.margin.toNat)),
        ("SCROLL_WAIT_TIME", .text (toString scroll.waitSeconds.toNat))]

end Screenplay
