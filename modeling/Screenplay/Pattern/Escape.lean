import Screenplay.Pattern.Expression
import Screenplay.Pattern.Flags
import Screenplay.Pattern.Scanning

/-!
# Escapes of a pattern

A backslash gives the character after it another meaning: a class, an assertion or
a character named by its code point.  Before punctuation it takes away the meaning
that the punctuation has.  Letters and digits without a meaning of their own
cannot be escaped, so that back-references are refused.

When the classes are those of ASCII, only what matches ASCII characters can be
written: no negated class, no Unicode property and no byte above 0x7F.
-/

namespace Screenplay.Pattern

/-- What an escape stands for.  A character that is written as a single byte is
told apart from the others. -/
inductive Escape where
  | literal (character : Char) (isByte : Bool)
  | oneOf (characters : CharClass)
  | assertion (assertion : Assertion)

namespace Escape

/-- The character with a code point, unless there is none. -/
def charOfCode? (code : Nat) : Option Char :=
  if code.isValidChar then some (Char.ofNat code) else none

/-- Read the code point after `\x`, `\u` or `\U`: as many digits as said, or any
number of them in braces. -/
def readCode? (verbose : Bool) (digits : Nat) (text : List Char) :
    Option (Escape × List Char) :=
  match skipSpace verbose text with
  | '\x7b' :: rest => do
      let (digits, rest) ← readBraced? verbose false rest
      let code ← Text.readHex? digits
      let character ← charOfCode? code
      some (.literal character false, skipSpace verbose rest)
  | text => do
      let (spelled, rest) ← readHexDigits? verbose digits text
      let code ← Text.readHex? spelled
      let character ← charOfCode? code
      some (.literal character (digits == 2), rest)

/-- Cut a list of characters at the first place where a separator stands. -/
def cutAt? (separator : List Char) : List Char → Option (List Char × List Char)
  | [] => none
  | character :: rest =>
      if separator.isPrefixOf (character :: rest) then
        some ([], (character :: rest).drop separator.length)
      else
        (cutAt? separator rest).map fun (before, after) => (character :: before, after)

/-- The Unicode property that a name in braces stands for, and whether the name
itself negates it. -/
def propertyOfName? (name : List Char) : Option (Unicode.Property × Bool) :=
  let valued (parts : List Char × List Char) : Option Unicode.Property :=
    Unicode.Property.valued? (String.ofList parts.1) (String.ofList parts.2)
  match cutAt? ['!', '='] name with
  | some parts => (valued parts).map (·, true)
  | none =>
      match cutAt? [':'] name with
      | some parts => (valued parts).map (·, false)
      | none =>
          match cutAt? ['='] name with
          | some parts => (valued parts).map (·, false)
          | none => (Unicode.Property.named? (String.ofList name)).map (·, false)

/-- A class with regard to case. -/
def regardingCase (flags : Flags) (characters : CharClass) : CharClass :=
  if flags.ignoreCase then
    if flags.unicode then .ignoringCase characters else .ignoringAsciiCase characters
  else
    characters

/-- Negate a class, which needs the classes of Unicode. -/
def negate? (flags : Flags) (negated : Bool) (characters : CharClass) :
    Option CharClass :=
  if !negated then some characters
  else if flags.unicode then some (.complement characters)
  else none

/-- Read a Unicode property: a letter, or a name in braces. -/
def readProperty? (flags : Flags) (negated : Bool) (text : List Char) :
    Option (Escape × List Char) := do
  let (name, rest) ←
    match skipSpace flags.verbose text with
    | [] => none
    | '\x7b' :: rest => readBraced? flags.verbose false rest
    | '\\' :: _ => none
    | letter :: rest => some ([letter], skipSpace flags.verbose rest)
  let (property, negatedByName) ← propertyOfName? name
  let folded := regardingCase flags (.named property)
  let characters ← negate? flags (negated != negatedByName) folded
  if flags.unicode then some (.oneOf characters, rest) else none

/-- A class that has a letter, among all characters or those of ASCII. -/
def letterClass (flags : Flags) (unicodeClass : CharClass) (asciiClass : CharClass) :
    CharClass :=
  if flags.unicode then unicodeClass else asciiClass

/-- The ASCII digits. -/
def asciiDigit : CharClass := .span '0' '9'

/-- The ASCII blanks. -/
def asciiBlank : CharClass := .union (.span '\t' '\r') (.single ' ')

/-- The ASCII characters of words. -/
def asciiWord : CharClass :=
  .union asciiDigit (.union (.span 'A' 'Z') (.union (.single '_') (.span 'a' 'z')))

/-- The class of a letter after the backslash. -/
def classOfLetter? (flags : Flags) (letter : Char) : Option (Option CharClass) :=
  match letter with
  | 'd' => some (some (letterClass flags .digit asciiDigit))
  | 's' => some (some (letterClass flags .blank asciiBlank))
  | 'w' => some (some (letterClass flags .word asciiWord))
  | 'D' => some (negate? flags true .digit)
  | 'S' => some (negate? flags true .blank)
  | 'W' => some (negate? flags true .word)
  | _ => none

/-- Punctuation and controls of ASCII can stand after a backslash for themselves,
angle brackets excepted. -/
def isEscapable (character : Char) : Bool :=
  character.toNat < 0x80 && !character.isAlphanum && character != '<' && character != '>'

/-- Read what follows `\b`: an assertion about one side of a word may be named in
braces, unless the braces hold a count. -/
def readWordBoundary? (flags : Flags) (text : List Char) : Option (Escape × List Char) :=
  let ascii := !flags.unicode
  let plain := some (Escape.assertion (.wordBoundary ascii), text)
  match text with
  | '\x7b' :: rest =>
      match skipSpace flags.verbose rest with
      | [] => none
      | first :: _ =>
          if first.isAlpha || first == '-' then do
            let (name, rest) ← readBraced? flags.verbose false rest
            match String.ofList name with
            | "start" => some (.assertion (.wordStart ascii), rest)
            | "end" => some (.assertion (.wordEnd ascii), rest)
            | "start-half" => some (.assertion (.wordStartHalf ascii), rest)
            | "end-half" => some (.assertion (.wordEndHalf ascii), rest)
            | _ => none
          else
            plain
  | _ => plain

/-- Read what follows a backslash. -/
def read? (flags : Flags) : List Char → Option (Escape × List Char)
  | [] => none
  | letter :: rest =>
      let ascii := !flags.unicode
      match classOfLetter? flags letter with
      | some characters => characters.map fun characters => (.oneOf characters, rest)
      | none =>
          if isEscapable letter then some (.literal letter false, rest)
          else
            match letter with
            | 'x' => readCode? flags.verbose 2 rest
            | 'u' => readCode? flags.verbose 4 rest
            | 'U' => readCode? flags.verbose 8 rest
            | 'p' => readProperty? flags false rest
            | 'P' => readProperty? flags true rest
            | 'a' => some (.literal '\x07' false, rest)
            | 'f' => some (.literal '\x0c' false, rest)
            | 't' => some (.literal '\t' false, rest)
            | 'n' => some (.literal '\n' false, rest)
            | 'r' => some (.literal '\r' false, rest)
            | 'v' => some (.literal '\x0b' false, rest)
            | 'A' => some (.assertion .textStart, rest)
            | 'z' => some (.assertion .textEnd, rest)
            | 'b' => readWordBoundary? flags rest
            | 'B' => some (.assertion (.notWordBoundary ascii), rest)
            | '<' => some (.assertion (.wordStart ascii), rest)
            | '>' => some (.assertion (.wordEnd ascii), rest)
            | _ => none

end Escape

end Screenplay.Pattern
