import Screenplay.Json.Token

/-!
# Document trees

The tree of a JSON document before its texts and numbers are interpreted and
before repeated member names are resolved.  Trees may be nested to any depth.

The tree is built from the tokens by a machine with a stack: each frame is an
array or an object whose end has not been read yet.
-/

namespace Screenplay.Json

/-- The tree of a document. -/
inductive Tree where
  | null
  | bool (value : Bool)
  | number (spelling : Spelling)
  | text (pieces : List Piece)
  | array (items : List Tree)
  | object (members : List (List Piece × Tree))

namespace Tree

/-- An array or an object that is being read, its parts in reverse order.  An
object holds the name of the member that is being read. -/
inductive Frame where
  | array (items : List Tree)
  | object (members : List (List Piece × Tree)) (name : List Piece)

/-- What the machine expects next. -/
inductive Builder where
  | expectValue (frames : List Frame)
  | expectItemOrEnd (frames : List Frame)
  | expectNameOrEnd (frames : List Frame)
  | expectName (frames : List Frame) (members : List (List Piece × Tree))
  | expectColon (frames : List Frame) (members : List (List Piece × Tree))
      (name : List Piece)
  | expectCommaOrEnd (frame : Frame) (frames : List Frame)
  | done (tree : Tree)

namespace Builder

/-- A value has been read: it goes to the frame on top, or it is the whole
document. -/
def complete (tree : Tree) : List Frame → Builder
  | [] => .done tree
  | .array items :: frames => .expectCommaOrEnd (.array (tree :: items)) frames
  | .object members name :: frames =>
      .expectCommaOrEnd (.object ((name, tree) :: members) name) frames

/-- Read the first token of a value. -/
def stepValue (frames : List Frame) : Token → Option Builder
  | .null => some (complete .null frames)
  | .bool value => some (complete (.bool value) frames)
  | .number spelling => some (complete (.number spelling) frames)
  | .text pieces => some (complete (.text pieces) frames)
  | .beginArray => some (.expectItemOrEnd frames)
  | .beginObject => some (.expectNameOrEnd frames)
  | _ => none

/-- Read one token. -/
def step : Builder → Token → Option Builder
  | .expectValue frames, token => stepValue frames token
  | .expectItemOrEnd frames, .endArray => some (complete (.array []) frames)
  | .expectItemOrEnd frames, token => stepValue (.array [] :: frames) token
  | .expectNameOrEnd frames, .endObject => some (complete (.object []) frames)
  | .expectNameOrEnd frames, .text name => some (.expectColon frames [] name)
  | .expectName frames members, .text name => some (.expectColon frames members name)
  | .expectColon frames members name, .colon =>
      some (.expectValue (.object members name :: frames))
  | .expectCommaOrEnd (.array items) frames, .comma =>
      some (.expectValue (.array items :: frames))
  | .expectCommaOrEnd (.array items) frames, .endArray =>
      some (complete (.array items.reverse) frames)
  | .expectCommaOrEnd (.object members _) frames, .comma =>
      some (.expectName frames members)
  | .expectCommaOrEnd (.object members _) frames, .endObject =>
      some (complete (.object members.reverse) frames)
  | _, _ => none

/-- The tree of a document that ends here. -/
def finish? : Builder → Option Tree
  | .done tree => some tree
  | _ => none

end Builder

/-- The tree of a list of tokens. -/
def ofTokens? (tokens : List Token) : Option Tree := do
  let builder ← tokens.foldlM Builder.step (.expectValue [])
  builder.finish?

/-- The tree of a document. -/
def read? (document : String) : Option Tree := do
  let tokens ← Token.scan? document
  ofTokens? tokens

end Tree

/-- The text spelled by a list of pieces.  Two escapes may form a pair of
surrogates; a surrogate that stands alone spells nothing. -/
def decodePieces? : List Piece → Option (List Char)
  | [] => some []
  | .char character :: rest => (decodePieces? rest).map (character :: ·)
  | .code unit :: rest =>
      if 0xDC00 ≤ unit ∧ unit < 0xE000 then
        none
      else if 0xD800 ≤ unit ∧ unit < 0xDC00 then
        match rest with
        | .code low :: rest =>
            if 0xDC00 ≤ low ∧ low < 0xE000 then
              let code := 0x10000 + (unit - 0xD800) * 0x400 + (low - 0xDC00)
              (decodePieces? rest).map (Char.ofNat code :: ·)
            else
              none
        | _ => none
      else
        (decodePieces? rest).map (Char.ofNat unit :: ·)

/-- The text that a token of the document stands for. -/
def decodeText? (pieces : List Piece) : Option String :=
  (decodePieces? pieces).map String.ofList

end Screenplay.Json
