import Screenplay.Json.Writer
import Screenplay.Json.Number

/-!
# Elements of a screen

An element is a snapshot of something on the screen: how the screen refers to it,
what it says about itself, where it is and what can be done with it.

Elements are written as JSON objects, and read back from objects or from arrays of
all their parts in order.  An optional attribute that is missing is the same as
one that is `null`; members with other names are passed over, whatever they hold.
-/

namespace Screenplay

/-- A rectangle of the screen, in pixels. -/
structure Bounds where
  x : Int32 := 0
  y : Int32 := 0
  width : Int32 := 0
  height : Int32 := 0
  deriving DecidableEq

/-- The point in the middle of a rectangle; half a pixel is dropped. -/
def Bounds.center (bounds : Bounds) : Int32 × Int32 :=
  (bounds.x + bounds.width / 2, bounds.y + bounds.height / 2)

/-- A snapshot of an element. -/
structure Element where
  /-- How the screen refers to the element. -/
  handle : String
  /-- The full name of the resource, such as `com.example:id/title`. -/
  resourceName : Option String := none
  package : Option String := none
  text : Option String := none
  description : Option String := none
  className : Option String := none
  bounds : Bounds := {}
  enabled : Bool := true
  scrollable : Bool := false
  clickable : Bool := false
  longClickable : Bool := false
  deriving DecidableEq

namespace Element

/-- The full name of a resource of a package. -/
def resourceNameOf (package id : String) : String :=
  package ++ ":id/" ++ id

/-- The element with a resource of a package, to which it then belongs. -/
def withResource (element : Element) (package id : String) : Element :=
  { element with resourceName := some (resourceNameOf package id), package := some package }

/-- What people would call the element. -/
def displayName (element : Element) : String :=
  (element.text <|> element.description <|> element.resourceName).getD element.handle

/-- The member of an attribute that may be missing. -/
def optionalMember (name : String) (value : Option String) : List (String × Json) :=
  (value.map fun value => (name, Json.text value)).toList

end Element

/-- The rectangle as a JSON object. -/
def Bounds.toJson (bounds : Bounds) : Json :=
  .object
    [("x", .ofInt bounds.x.toInt), ("y", .ofInt bounds.y.toInt),
      ("width", .ofInt bounds.width.toInt), ("height", .ofInt bounds.height.toInt)]

/-- The element as a JSON object. -/
def Element.toJson (element : Element) : Json :=
  .object <|
    [("handle", Json.text element.handle)] ++
    optionalMember "resource_id" element.resourceName ++
    optionalMember "package" element.package ++
    optionalMember "text" element.text ++
    optionalMember "description" element.description ++
    optionalMember "class_name" element.className ++
    [("bounds", element.bounds.toJson),
      ("enabled", .bool element.enabled),
      ("scrollable", .bool element.scrollable),
      ("clickable", .bool element.clickable),
      ("long_clickable", .bool element.longClickable)]

namespace Json.Tree

/-- The members of an object with their names decoded, or nothing if a name does
not decode. -/
def decodeNames? : List (List Piece × Tree) → Option (List (String × Tree))
  | [] => some []
  | (pieces, tree) :: rest => do
      let name ← decodeText? pieces
      let members ← decodeNames? rest
      some ((name, tree) :: members)

/-- The member with a name; `null` if there is none, and nothing if it is
repeated. -/
def member? (members : List (String × Tree)) (name : String) : Option Tree :=
  match members.filter (·.1 == name) with
  | [] => some .null
  | [(_, tree)] => some tree
  | _ => none

/-- The named parts of an object, or all items of an array. -/
def parts? (names : List String) : Tree → Option (List Tree)
  | .array items => some items
  | .object members => do
      let members ← decodeNames? members
      names.mapM (member? members)
  | _ => none

/-- Interpret a tree as a text. -/
def toText? : Tree → Option String
  | .text pieces => decodeText? pieces
  | _ => none

/-- Interpret a tree as a text that may be missing. -/
def toOptionalText? : Tree → Option (Option String)
  | .null => some none
  | tree => tree.toText?.map some

/-- Interpret a tree as a truth value. -/
def toBool? : Tree → Option Bool
  | .bool value => some value
  | _ => none

/-- The value of an integer. -/
def integerOf? : Json.Number → Option Int
  | .natural value => some value.toNat
  | .negative value _ => some value.toInt
  | .double _ => none

/-- Interpret a tree as an integer of 32 bits. -/
def toInt32? : Tree → Option Int32
  | .number spelling => do
      let number ← Json.Number.ofSpelling? spelling
      let value ← integerOf? number
      if Int32.minValue.toInt ≤ value ∧ value ≤ Int32.maxValue.toInt then
        some (Int32.ofInt value)
      else none
  | _ => none

end Json.Tree

/-- Interpret a tree as a rectangle. -/
def Bounds.ofTree? (tree : Json.Tree) : Option Bounds := do
  match ← tree.parts? ["x", "y", "width", "height"] with
  | [x, y, width, height] => do
      let x ← x.toInt32?
      let y ← y.toInt32?
      let width ← width.toInt32?
      let height ← height.toInt32?
      some ⟨x, y, width, height⟩
  | _ => none

namespace Element

/-- The names of the parts of an element, in order. -/
def partNames : List String :=
  ["handle", "resource_id", "package", "text", "description", "class_name", "bounds",
    "enabled", "scrollable", "clickable", "long_clickable"]

/-- Interpret a tree as an element. -/
def ofTree? (tree : Json.Tree) : Option Element := do
  match ← tree.parts? partNames with
  | [handle, resourceName, package, text, description, className, bounds,
      enabled, scrollable, clickable, longClickable] => do
      let handle ← handle.toText?
      let resourceName ← resourceName.toOptionalText?
      let package ← package.toOptionalText?
      let text ← text.toOptionalText?
      let description ← description.toOptionalText?
      let className ← className.toOptionalText?
      let bounds ← Bounds.ofTree? bounds
      let enabled ← enabled.toBool?
      let scrollable ← scrollable.toBool?
      let clickable ← clickable.toBool?
      let longClickable ← longClickable.toBool?
      some ⟨handle, resourceName, package, text, description, className, bounds,
        enabled, scrollable, clickable, longClickable⟩
  | _ => none

/-- Read an element from a JSON document. -/
def read? (document : String) : Option Element := do
  let tree ← Json.Tree.read? document
  ofTree? tree

end Element

end Screenplay
