import Screenplay.Text.Numeral
import Screenplay.Unicode.Property

/-!
# Quoted texts

Messages show a text between double quotes, so that its ends and its invisible
characters can be seen.  A quote and a backslash are written with a backslash
before them, the common controls by a letter, and every other character that is
not printable, or that would merge with its neighbour, by its code point.
-/

namespace Screenplay.Text

/-- The written form of one character between quotes. -/
def quoteChar (character : Char) : List Char :=
  match character with
  | '"' => ['\\', '"']
  | '\\' => ['\\', '\\']
  | '\n' => ['\\', 'n']
  | '\t' => ['\\', 't']
  | '\r' => ['\\', 'r']
  | '\x00' => ['\\', '0']
  | _ =>
      if Unicode.Property.isGraphemeExtend character || !Unicode.isPrintable character then
        ['\\', 'u', '\x7b'] ++ hexDigits character.toNat ++ ['\x7d']
      else
        [character]

/-- A text between double quotes. -/
def quote (text : String) : String :=
  String.ofList ('"' :: text.toList.flatMap quoteChar ++ ['"'])

end Screenplay.Text
