import Screenplay.Pattern.Bracket
import Screenplay.Pattern.Term

/-!
# Reading patterns

The reader keeps the terms of the sequence at hand, the alternatives before it in
the innermost group, and for every group around it what will be needed when the
group is closed.  Flags set inside a group last until its end, across its
alternatives.

There is no look-around and there are no back-references.  A pattern is refused
when its constructs are nested too deeply or when it denotes too large an
automaton.
-/

namespace Screenplay.Pattern

/-- A group whose closing parenthesis has not been read. -/
structure GroupFrame where
  captures : Bool
  /-- The terms before the group, last one first. -/
  terms : List Term
  /-- The alternatives before the group, last one first. -/
  alternatives : List Term
  /-- The flags to be restored after the group. -/
  flags : Flags

/-- What has been read of a pattern. -/
structure Reader where
  flags : Flags := {}
  /-- The names of groups. -/
  names : List String := []
  /-- The terms of the sequence at hand, last one first. -/
  terms : List Term := []
  /-- The alternatives before it, last one first. -/
  alternatives : List Term := []
  frames : List GroupFrame := []

namespace Reader

/-- Add a term to the sequence at hand. -/
def push (reader : Reader) (term : Term) : Reader :=
  { reader with terms := term :: reader.terms }

/-- The alternatives of the innermost group. -/
def close (reader : Reader) : Term :=
  match reader.alternatives.reverse ++ [Term.sequence reader.terms.reverse] with
  | [] => Term.empty
  | first :: others => Term.choice first others

/-- The term of one character. -/
def literal? (flags : Flags) (character : Char) (isByte : Bool) : Option Term :=
  if flags.unicode then
    some (.oneOf (Escape.regardingCase flags (.single character)) 0)
  else if isByte && 0x80 ≤ character.toNat then
    none
  else if character.isAlpha then
    some (.oneOf (Escape.regardingCase flags (.single character)) 0)
  else
    some (.oneOf (.single character) 0)

/-- The term of an escape. -/
def escapeTerm? (flags : Flags) : Escape → Option Term
  | .literal character isByte => literal? flags character isByte
  | .oneOf characters => some (.oneOf characters 0)
  | .assertion assertion => some (.assertion assertion)

/-- The term of a full stop, which needs the characters of Unicode. -/
def dot? (flags : Flags) : Option Term :=
  let excluded : CharClass :=
    if flags.dotMatchesAll then .empty
    else if flags.pairedBreaks then .union (.single '\n') (.single '\r')
    else .single '\n'
  if flags.unicode then some (.oneOf (.complement excluded) 0) else none

/-- Repeat the last term, which has to be one that matches something. -/
def repeat? (reader : Reader) (least : Nat) (most : Option Nat) : Option Reader :=
  match reader.terms with
  | [] => none
  | term :: terms =>
      if term.isDirective then none
      else some { reader with terms := .repetition least most term :: terms }

/-- Pass over the mark of a reluctant repetition. -/
def skipReluctance : List Char → List Char
  | '?' :: rest => rest
  | rest => rest

/-- Read the bounds of a counted repetition after the opening brace. -/
def readBounds? (verbose : Bool) (text : List Char) :
    Option (Nat × Option Nat × List Char) := do
  let (least, rest) ← readCount? verbose text
  let least ← least
  match rest with
  | '\x7d' :: rest => some (least, some least, rest)
  | ',' :: rest =>
      match skipSpace verbose rest with
      | '\x7d' :: rest => some (least, none, rest)
      | rest => do
          let (most, rest) ← readCount? verbose rest
          let most ← most
          match rest with
          | '\x7d' :: rest => if least ≤ most then some (least, some most, rest) else none
          | _ => none
  | _ => none

/-- Whether a character may stand in the name of a group. -/
def isNameChar (isFirst : Bool) (character : Char) : Bool :=
  character == '_' ||
    if isFirst then Unicode.Property.isAlphabetic character
    else
      character == '.' || character == '[' || character == ']' ||
        Unicode.Property.isAlphanumeric character

/-- Whether a list of characters is the name of a group. -/
def isGroupName : List Char → Bool
  | [] => false
  | first :: rest => isNameChar true first && rest.all (isNameChar false)

/-- Begin a group. -/
def enter (reader : Reader) (captures : Bool) (flags : Flags) : Reader :=
  let frame : GroupFrame := ⟨captures, reader.terms, reader.alternatives, reader.flags⟩
  { reader with flags, terms := [], alternatives := [], frames := frame :: reader.frames }

/-- Read the name of a group, and begin the group. -/
def enterNamed? (reader : Reader) (text : List Char) : Option (Reader × List Char) :=
  let name := text.takeWhile (· != '>')
  let spelled := String.ofList name
  match text.dropWhile (· != '>') with
  | [] => none
  | _ :: rest =>
      if isGroupName name && !reader.names.contains spelled then
        some ({ reader.enter true reader.flags with names := spelled :: reader.names }, rest)
      else
        none

/-- Read a change of flags, which is for a group or for the rest of the innermost
one. -/
def readFlags? (reader : Reader) (text : List Char) : Option (Reader × List Char) :=
  let endsFlags (character : Char) : Bool := character == ':' || character == ')'
  let letters := text.takeWhile (!endsFlags ·)
  let flags := reader.flags.apply letters
  if !Flags.areValid letters then none
  else
    match text.dropWhile (!endsFlags ·) with
    | ':' :: rest => some (reader.enter false flags, rest)
    | ')' :: rest =>
        if letters.isEmpty then none
        else some ({ reader with flags }.push .directive, rest)
    | _ => none

/-- Read what follows an opening parenthesis. -/
def readGroup? (reader : Reader) (text : List Char) : Option (Reader × List Char) :=
  match skipSpace reader.flags.verbose text with
  | '?' :: '=' :: _ | '?' :: '!' :: _ | '?' :: '<' :: '=' :: _ | '?' :: '<' :: '!' :: _ => none
  | '?' :: 'P' :: '<' :: rest | '?' :: '<' :: rest => reader.enterNamed? rest
  | '?' :: rest => reader.readFlags? rest
  | rest => some (reader.enter true reader.flags, rest)

/-- Close the innermost group. -/
def leave? (reader : Reader) : Option Reader :=
  match reader.frames with
  | [] => none
  | frame :: frames =>
      let term := Term.group frame.captures reader.close
      some { reader with
        flags := frame.flags
        terms := term :: frame.terms
        alternatives := frame.alternatives
        frames }

/-- Begin another alternative. -/
def alternate (reader : Reader) : Reader :=
  { reader with
    terms := []
    alternatives := Term.sequence reader.terms.reverse :: reader.alternatives }

/-- Read a construct that starts with the given character. -/
def readConstruct? (reader : Reader) (character : Char) (rest : List Char) :
    Option (Reader × List Char) :=
  let flags := reader.flags
  match character with
  | '(' => reader.readGroup? rest
  | ')' => do
      let reader ← reader.leave?
      some (reader, rest)
  | '|' => some (reader.alternate, rest)
  | '[' => do
      let (part, rest) ← Bracket.read? flags rest
      some (reader.push (.oneOf part.characters part.depth), rest)
  | '?' => do
      let reader ← reader.repeat? 0 (some 1)
      some (reader, skipReluctance rest)
  | '*' => do
      let reader ← reader.repeat? 0 none
      some (reader, skipReluctance rest)
  | '+' => do
      let reader ← reader.repeat? 1 none
      some (reader, skipReluctance rest)
  | '\x7b' => do
      let (least, most, rest) ← readBounds? flags.verbose rest
      let reader ← reader.repeat? least most
      some (reader, skipReluctance (skipSpace flags.verbose rest))
  | '\\' => do
      let (escape, rest) ← Escape.read? flags rest
      let term ← escapeTerm? flags escape
      some (reader.push term, rest)
  | '.' => do
      let term ← dot? flags
      some (reader.push term, rest)
  | '^' =>
      let assertion : Assertion :=
        if flags.multiLine then .lineStart flags.pairedBreaks else .textStart
      some (reader.push (.assertion assertion), rest)
  | '$' =>
      let assertion : Assertion :=
        if flags.multiLine then .lineEnd flags.pairedBreaks else .textEnd
      some (reader.push (.assertion assertion), rest)
  | character => do
      let term ← literal? flags character false
      some (reader.push term, rest)

/-- Read the next construct, passing over what means nothing. -/
def step (reader : Reader) (character : Char) (rest : List Char) :
    Option (Reader × List Char ⊕ Empty × List Char) :=
  if reader.flags.verbose && (Text.isBlank character || character == '#') then
    some (.inl (reader, skipComments false (character :: rest)))
  else
    (reader.readConstruct? character rest).map .inl

/-- The term of a pattern that ends here. -/
def finish? (reader : Reader) : Option Term :=
  if reader.frames.isEmpty then some reader.close else none

end Reader

/-- Read a pattern. -/
def Term.ofText? (text : List Char) : Option Term := do
  match ← scan Reader.step 0 {} text with
  | .inr (impossible, _) => impossible.elim
  | .inl reader => do
      let term ← reader.finish?
      if term.depth ≤ depthLimit && term.weight ≤ weightLimit then some term else none

end Screenplay.Pattern
