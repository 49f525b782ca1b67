import Screenplay.Pattern.Escape

/-!
# Bracketed classes of a pattern

A bracketed class lists characters, ranges, escapes, named ASCII classes and
further bracketed classes.  Two lists may be joined by an operator, which takes the
whole list before it as its left operand and the whole list after it as its right
operand.  A closing bracket at the head of a class, and a hyphen at either end of
it, stand for themselves.
-/

namespace Screenplay.Pattern.Bracket

/-- A class that is being read, with the nesting of what it was put together
from. -/
structure Part where
  characters : CharClass
  depth : Nat

/-- The items of a list, which are joined to one class. -/
structure Items where
  union : CharClass := .empty
  count : Nat := 0
  depth : Nat := 0

namespace Items

/-- Add an item to a list. -/
def add (items : Items) (item : Part) : Items :=
  { union := if items.count = 0 then item.characters else .union items.union item.characters
    count := items.count + 1
    depth := max items.depth item.depth }

/-- Add a class that is not nested. -/
def addClass (items : Items) (characters : CharClass) : Items :=
  items.add ⟨characters, 0⟩

/-- The list as one class; more than one item make a construct of their own. -/
def join (items : Items) : Part :=
  ⟨items.union, if 1 < items.count then items.depth + 1 else items.depth⟩

end Items

/-- The operators on classes. -/
inductive Operator where
  | intersection
  | difference
  | symmetricDifference
  deriving DecidableEq, Repr

/-- Apply an operator to two classes. -/
def Operator.apply : Operator → CharClass → CharClass → CharClass
  | .intersection => .intersection
  | .difference => .difference
  | .symmetricDifference => .symmetricDifference

/-- A class whose closing bracket has not been read: the items before it in the
class around it, whether it is negated, and the operator that waits for its right
operand. -/
structure Frame where
  outer : Items
  negated : Bool
  pending : Option (Operator × Part)

/-- What has been read of the innermost class, and the classes around it. -/
structure State where
  items : Items
  frame : Frame
  outerFrames : List Frame

/-- The class of a frame whose last list of items is complete, before it is
negated. -/
def Frame.operand (frame : Frame) (flags : Flags) (items : Items) : Part :=
  let right := items.join
  match frame.pending with
  | none => right
  | some (operator, left) =>
      let regarding := Escape.regardingCase flags
      ⟨operator.apply (regarding left.characters) (regarding right.characters),
        max left.depth right.depth + 1⟩

/-- The named ASCII classes. -/
def asciiClass? (name : List Char) : Option CharClass :=
  let letters : CharClass := .union (.span 'A' 'Z') (.span 'a' 'z')
  match String.ofList name with
  | "alnum" => some (.union Escape.asciiDigit letters)
  | "alpha" => some letters
  | "ascii" => some (.span '\x00' '\x7f')
  | "blank" => some (.union (.single '\t') (.single ' '))
  | "cntrl" => some (.union (.span '\x00' '\x1f') (.single '\x7f'))
  | "digit" => some Escape.asciiDigit
  | "graph" => some (.span '!' '~')
  | "lower" => some (.span 'a' 'z')
  | "print" => some (.span ' ' '~')
  | "punct" =>
      some (.union (.span '!' '/') (.union (.span ':' '@')
        (.union (.span '[' '\x60') (.span '\x7b' '~'))))
  | "space" => some Escape.asciiBlank
  | "upper" => some (.span 'A' 'Z')
  | "word" => some Escape.asciiWord
  | "xdigit" =>
      some (.union Escape.asciiDigit (.union (.span 'A' 'F') (.span 'a' 'f')))
  | _ => none

/-- Read a named ASCII class after its opening bracket, if there is one. -/
def readAsciiClass? (text : List Char) : Option (CharClass × Bool × List Char) :=
  match text with
  | ':' :: afterColon =>
      let (negated, start) :=
        match afterColon with
        | '^' :: start => (true, start)
        | start => (false, start)
      match start.dropWhile (· != ':') with
      | ':' :: ']' :: rest =>
          (asciiClass? (start.takeWhile (· != ':'))).map fun characters =>
            (characters, negated, rest)
      | _ => none
  | _ => none

/-- Read the hyphens at the head of a class. -/
def readHyphens (verbose : Bool) (items : Items) :
    Nat → List Char → Items × List Char
  | 0, text => (items, text)
  | rounds + 1, text =>
      match skipSpace verbose text with
      | '-' :: rest => readHyphens verbose (items.addClass (.single '-')) rounds rest
      | text => (items, text)

/-- Read what may stand at the head of a class only. -/
def openClass? (flags : Flags) (outer : Items) (text : List Char) :
    Option (Items × Frame × List Char) :=
  let (negated, start) :=
    match skipSpace flags.verbose text with
    | '^' :: rest => (true, rest)
    | rest => (false, rest)
  let (items, rest) := readHyphens flags.verbose {} (start.length + 1) start
  let frame : Frame := ⟨outer, negated, none⟩
  match items.count, rest with
  | _, [] => none
  | 0, ']' :: rest => some (items.addClass (.single ']'), frame, rest)
  | _, rest => some (items, frame, rest)

/-- Close the innermost class. -/
def closeClass? (flags : Flags) (state : State) : Option Part := do
  let operand := state.frame.operand flags state.items
  let characters ←
    Escape.negate? flags state.frame.negated (Escape.regardingCase flags operand.characters)
  some ⟨characters, operand.depth + 1⟩

/-- Begin the right operand of an operator. -/
def State.operate (state : State) (flags : Flags) (operator : Operator) : State :=
  let left := state.frame.operand flags state.items
  { state with items := {}, frame := { state.frame with pending := some (operator, left) } }

/-- The character after the next one that means something. -/
def peekSpace (verbose : Bool) (text : List Char) : Option Char :=
  if verbose then
    match text.dropWhile Text.isBlank with
    | '#' :: rest => (rest.dropWhile Text.isBlank).head?
    | text => text.head?
  else
    text.head?

/-- Whether a class may list a character: with the classes of ASCII it has to be
one. -/
def literalIsAllowed (flags : Flags) (character : Char) : Bool :=
  flags.unicode || character.toNat < 0x80

/-- Read one character or escape of a class. -/
def readItem? (flags : Flags) : List Char → Option (Escape × List Char)
  | [] => none
  | '\\' :: rest => Escape.read? flags rest
  | character :: rest => some (.literal character false, rest)

/-- Read a character, an escape or a range. -/
def readRange? (flags : Flags) (text : List Char) : Option (CharClass × List Char) := do
  let (first, rest) ← readItem? flags text
  let alone : Option (CharClass × List Char) :=
    match first with
    | .literal character _ =>
        if literalIsAllowed flags character then some (.single character, rest) else none
    | .oneOf characters => some (characters, rest)
    | .assertion _ => none
  match skipSpace flags.verbose rest with
  | [] => none
  | '-' :: afterHyphen =>
      match peekSpace flags.verbose afterHyphen with
      | some ']' | some '-' => alone
      | _ => do
          let (last, rest) ← readItem? flags (skipSpace flags.verbose afterHyphen)
          match first, last with
          | .literal low _, .literal high _ =>
              if low ≤ high && literalIsAllowed flags low && literalIsAllowed flags high then
                some (.span low high, rest)
              else
                none
          | _, _ => none
  | _ => alone

/-- Read the next part of a class; the outermost class is the result when its
closing bracket is read. -/
def step (flags : Flags) (state : State) (character : Char) (rest : List Char) :
    Option (State × List Char ⊕ Part × List Char) :=
  let isSpace := flags.verbose && (Text.isBlank character || character == '#')
  if isSpace then
    some (.inl (state, skipComments false (character :: rest)))
  else
    match character, rest with
    | '[', rest =>
        match readAsciiClass? rest with
        | some (characters, negated, rest) => do
            let characters ← Escape.negate? flags negated (Escape.regardingCase flags characters)
            some (.inl ({ state with items := state.items.addClass characters }, rest))
        | none => do
            let (items, frame, rest) ← openClass? flags state.items rest
            some (.inl (⟨items, frame, state.frame :: state.outerFrames⟩, rest))
    | ']', rest => do
        let part ← closeClass? flags state
        match state.outerFrames with
        | [] => some (.inr (part, rest))
        | frame :: outerFrames =>
            some (.inl (⟨state.frame.outer.add part, frame, outerFrames⟩, rest))
    | '&', '&' :: rest => some (.inl (state.operate flags .intersection, rest))
    | '-', '-' :: rest => some (.inl (state.operate flags .difference, rest))
    | '~', '~' :: rest => some (.inl (state.operate flags .symmetricDifference, rest))
    | character, rest => do
        let (characters, rest) ← readRange? flags (character :: rest)
        some (.inl ({ state with items := state.items.addClass characters }, rest))

/-- Read a bracketed class after its opening bracket. -/
def read? (flags : Flags) (text : List Char) : Option (Part × List Char) := do
  let (items, frame, rest) ← openClass? flags {} text
  match ← scan (step flags) 0 ⟨items, frame, []⟩ rest with
  | .inl _ => none
  | .inr result => some result

end Screenplay.Pattern.Bracket
