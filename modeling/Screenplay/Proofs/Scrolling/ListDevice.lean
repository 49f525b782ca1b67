import Screenplay.Script.Engine
import Screenplay.Workflow.Search

/-!
# List devices

A list device shows a list of settings, one page at a time.  Besides the items of the page
it shows the list itself, two buttons and elements that stay.  The page moves by one item
when a button is clicked or the screen is swiped, as far as there are items.  A button is
disabled where it would not move the page.
-/

namespace Screenplay

/-- What does not change about a list device. -/
structure ListDevice where
  items : List Element := []
  /-- How many items are shown at a time. -/
  pageSize : Nat := 4
  /-- The elements that stay. -/
  fixed : List Element := []
  /-- Whether the list can be scrolled itself, rather than an element inside it. -/
  scrolls : Bool := true
  /-- The click from which on clicks are rejected, if any are. -/
  failingClick : Option Nat := none

namespace ListDevice

/-- The package of the settings. -/
def appPackage : String := "com.android.car.settings"

/-- What changes about a list device. -/
structure Moment where
  /-- The number of items before the page. -/
  offset : Nat := 0
  foreground : String := appPackage
  /-- The number of clicks made. -/
  clicks : Nat := 0

/-- The handle of the list. -/
def listHandle : String := "list"

/-- The handle of the element inside the list that can be scrolled. -/
def innerHandle : String := "list_inner"

/-- The handle of a button. -/
def buttonHandle : Way → String
  | .forward => "page_down"
  | .backward => "page_up"

/-- What a button says about itself. -/
def buttonDescription : Way → String
  | .forward => "Scroll down"
  | .backward => "Scroll up"

variable (device : ListDevice)

/-- Whether there are more items in a direction. -/
def canMove (offset : Nat) : Way → Bool
  | .forward => decide (offset + device.pageSize < device.items.length)
  | .backward => decide (0 < offset)

/-- The offset after the page was moved. -/
def moved (offset : Nat) (way : Way) : Nat :=
  if device.canMove offset way then
    match way with
    | .forward => offset + 1
    | .backward => offset - 1
  else offset

/-! ## What is shown -/

/-- The list. -/
def list : Element :=
  let element : Element :=
    { handle := listHandle
      className := some "androidx.recyclerview.widget.RecyclerView"
      scrollable := device.scrolls }
  element.withResource appPackage "recycler_view"

/-- The element inside the list that can be scrolled. -/
def inner : Element :=
  { handle := innerHandle, className := some "android.widget.ScrollView", scrollable := true }

/-- A button, as it looks at an offset. -/
def button (offset : Nat) (way : Way) : Element :=
  { handle := buttonHandle way
    description := some (buttonDescription way)
    clickable := true
    enabled := device.canMove offset way }

/-- The items of the page at an offset. -/
def page (offset : Nat) : List Element :=
  (device.items.drop offset).take device.pageSize

/-- The element inside the list, where the list cannot be scrolled itself. -/
def innerList : List Element :=
  if device.scrolls then [] else [inner]

/-- What is shown at an offset, in order. -/
def visible (offset : Nat) : List Element :=
  device.list :: (device.innerList ++
    [device.button offset .forward, device.button offset .backward] ++
    device.fixed ++ device.page offset)

/-- What is inside an element. -/
def inside (offset : Nat) (root : Element) : List Element :=
  if root.handle = listHandle then device.innerList ++ device.page offset
  else if root.handle = innerHandle then device.page offset
  else []

/-- The elements that a selector means, in order. -/
def search (offset : Nat) (selector : Selector) (root : Option Element) : List Element :=
  (root.elim (device.visible offset) (device.inside offset)).filter selector.accepts

/-- The text that tells what is shown. -/
def text (offset : Nat) : String :=
  "\n".intercalate <| (device.visible offset).map fun element =>
    element.handle ++ "[enabled=" ++ toString element.enabled ++ "]"

/-! ## What is done -/

/-- Move the page. -/
def move (moment : Moment) (way : Way) : Moment :=
  { moment with offset := device.moved moment.offset way }

/-- The effect of a click on an element with a handle. -/
def click (moment : Moment) (handle : String) : Except RunError Unit × Moment :=
  let moment := { moment with clicks := moment.clicks + 1 }
  if device.failingClick.any (· ≤ moment.clicks) then
    (.error (.platform ("click " ++ toString moment.clicks ++ " rejected")), moment)
  else if handle = buttonHandle .forward then (.ok (), device.move moment .forward)
  else if handle = buttonHandle .backward then (.ok (), device.move moment .backward)
  else (.ok (), moment)

/-- The way in which a swipe moves the page. -/
def wayOf : Direction → Way
  | .down | .right => .forward
  | .up | .left => .backward

/-- Answer a request. -/
def answer (request : Request) (moment : Moment) : Except RunError request.Answer × Moment :=
  match request with
  | .find selector root _ => (.ok (device.search moment.offset selector root).head?, moment)
  | .findAll selector root _ => (.ok (device.search moment.offset selector root), moment)
  | .click element => device.click moment element.handle
  | .longClick _ => (.ok (), moment)
  | .scroll _ direction _ => (.ok (), device.move moment (wayOf direction))
  | .shell _ => (.ok "", moment)
  | .pressKey _ => (.ok (), moment)
  | .wakeUp => (.ok (), moment)
  | .isForeground package => (.ok (moment.foreground == package), moment)
  | .screenBounds => (.ok ⟨0, 0, 1080, 1920⟩, moment)
  | .dump => (.ok (device.text moment.offset), moment)

/-- The list device as an engine. -/
def engine : Engine Moment where
  answer := device.answer
  wait _ moment := moment

end ListDevice

end Screenplay
