import Screenplay.Text.Blank
import Screenplay.Text.Numeral

/-!
# Scanning a pattern

A pattern is read from left to right by a step function that looks at the next
character and the text after it, and may read some of that text as well.  `scan`
drives such a function: it walks the text one character at a time, and passes over
the characters that the last step has read.

In a verbose pattern blanks mean nothing, and neither does the text from a number
sign to the end of its line.
-/

namespace Screenplay.Pattern

/-- Drive a step function over a text until it returns a result, which comes with
the text after it.  The first argument counts the characters to pass over. -/
def scan {State Result : Type}
    (step : State → Char → List Char → Option (State × List Char ⊕ Result × List Char)) :
    Nat → State → List Char → Option (State ⊕ Result × List Char)
  | _, state, [] => some (.inl state)
  | passed + 1, state, _ :: rest => scan step passed state rest
  | 0, state, character :: rest =>
      match step state character rest with
      | none => none
      | some (.inr result) => some (.inr result)
      | some (.inl (state, remaining)) =>
          scan step (rest.length - remaining.length) state rest

/-- Drop blanks and comments. -/
def skipComments (inComment : Bool) : List Char → List Char
  | [] => []
  | character :: rest =>
      if inComment then skipComments (character != '\n') rest
      else if Text.isBlank character then skipComments false rest
      else if character == '#' then skipComments true rest
      else character :: rest

/-- Drop what means nothing. -/
def skipSpace (verbose : Bool) (text : List Char) : List Char :=
  if verbose then skipComments false text else text

/-- Read up to a closing brace, dropping what means nothing. -/
def readBraced? (verbose inComment : Bool) : List Char → Option (List Char × List Char)
  | [] => none
  | character :: rest =>
      if inComment then readBraced? verbose (character != '\n') rest
      else if verbose && Text.isBlank character then readBraced? verbose false rest
      else if verbose && character == '#' then readBraced? verbose true rest
      else if character == '\x7d' then some ([], rest)
      else (readBraced? verbose false rest).map fun (read, rest) => (character :: read, rest)

/-- Read hexadecimal digits, as many as said. -/
def readHexDigits? (verbose : Bool) : Nat → List Char → Option (List Char × List Char)
  | 0, text => some ([], text)
  | _ + 1, [] => none
  | missing + 1, character :: rest => do
      let _ ← Text.hexValue? character
      let (digits, rest) ← readHexDigits? verbose missing (skipSpace verbose rest)
      some (character :: digits, rest)

/-- Read the decimal digits at the head of a text. -/
def readDigits (verbose inComment : Bool) : List Char → List Char × List Char
  | [] => ([], [])
  | character :: rest =>
      if inComment then readDigits verbose (character != '\n') rest
      else if verbose && Text.isBlank character then readDigits verbose false rest
      else if verbose && character == '#' then readDigits verbose true rest
      else if character.isDigit then
        let (digits, rest) := readDigits verbose false rest
        (character :: digits, rest)
      else ([], character :: rest)

/-- Read a count, around which there may be blanks even in a pattern that is not
verbose.  The count may be missing, but it fits 32 bits. -/
def readCount? (verbose : Bool) (text : List Char) :
    Option (Option Nat × List Char) :=
  let start := if verbose then skipComments false text else text.dropWhile Text.isBlank
  let (digits, rest) := readDigits verbose false start
  let rest := if verbose then skipComments false rest else rest.dropWhile Text.isBlank
  match Text.readDigits? digits with
  | none => some (none, rest)
  | some value => if value < UInt32.size then some (some value, rest) else none

end Screenplay.Pattern
