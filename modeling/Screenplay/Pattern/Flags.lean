/-!
# Flags of a pattern

Flags change how the rest of a group is read.  They are written as letters, of
which those after a hyphen are cleared; no letter stands there twice, nor does the
hyphen, which has a letter after it.
-/

namespace Screenplay.Pattern

/-- How a pattern is read. -/
structure Flags where
  /-- Characters match their case variants. -/
  ignoreCase : Bool := true
  /-- The anchors hold at the ends of lines. -/
  multiLine : Bool := false
  /-- The full stop matches line feeds. -/
  dotMatchesAll : Bool := false
  /-- Line breaks may be a carriage return and a line feed. -/
  pairedBreaks : Bool := false
  /-- Classes are those of Unicode rather than ASCII. -/
  unicode : Bool := true
  /-- Blanks and comments mean nothing. -/
  verbose : Bool := false
  deriving DecidableEq, Repr

namespace Flags

/-- Set or clear the flag of a letter.  The letter for reluctant repetition is
accepted, but has no bearing on what is matched. -/
def put (flags : Flags) (letter : Char) (value : Bool) : Flags :=
  match letter with
  | 'i' => { flags with ignoreCase := value }
  | 'm' => { flags with multiLine := value }
  | 's' => { flags with dotMatchesAll := value }
  | 'R' => { flags with pairedBreaks := value }
  | 'u' => { flags with unicode := value }
  | 'x' => { flags with verbose := value }
  | _ => flags

/-- Whether letters and hyphens are a well-formed change of flags. -/
def areValid (letters : List Char) : Bool :=
  letters.all (['i', 'm', 's', 'R', 'u', 'x', 'U', '-'].contains ·) &&
    decide letters.Nodup && letters.getLast? != some '-'

/-- Apply a change of flags. -/
def apply (flags : Flags) (letters : List Char) : Flags :=
  let set := letters.takeWhile (· != '-')
  let cleared := letters.dropWhile (· != '-')
  let flags := set.foldl (fun flags letter => flags.put letter true) flags
  cleared.foldl (fun flags letter => flags.put letter false) flags

end Flags

end Screenplay.Pattern
