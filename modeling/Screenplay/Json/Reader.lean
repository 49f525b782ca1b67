import Screenplay.Json.Number
import Screenplay.NameMap

/-!
# Reading JSON documents

A document is a value if its tree can be interpreted: every text decodes, every
number fits, and values are nested at most 127 deep.  The members of an object
are sorted by name, and of members with equal names the last one counts.
-/

namespace Screenplay.Json

/-- The deepest nesting of arrays and objects in a document. -/
def nestingLimit : Nat := 127

mutual

/-- Interpret a tree in which `budget` more levels may be nested. -/
def ofTree? (budget : Nat) : Tree → Option Json
  | .null => some .null
  | .bool value => some (.bool value)
  | .number spelling => (Number.ofSpelling? spelling).map .number
  | .text pieces => (decodeText? pieces).map .text
  | .array items =>
      if budget = 0 then none else (ofTrees? (budget - 1) items).map .array
  | .object members =>
      if budget = 0 then none
      else (ofMembers? (budget - 1) [] members).map .object

/-- Interpret the items of an array. -/
def ofTrees? (budget : Nat) : List Tree → Option (List Json)
  | [] => some []
  | item :: rest => do
      let value ← ofTree? budget item
      let values ← ofTrees? budget rest
      some (value :: values)

/-- Interpret the members of an object, after those that have been sorted
already. -/
def ofMembers? (budget : Nat) (sorted : List (String × Json)) :
    List (List Piece × Tree) → Option (List (String × Json))
  | [] => some sorted
  | (pieces, tree) :: rest => do
      let name ← decodeText? pieces
      let value ← ofTree? budget tree
      ofMembers? budget (insertEntry name value sorted) rest

end

/-- Read a document. -/
def read? (document : String) : Option Json := do
  let tree ← Tree.read? document
  ofTree? nestingLimit tree

end Screenplay.Json
