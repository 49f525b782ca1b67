import Screenplay.Json.Number

/-!
# Writing JSON documents

Values are written either without any white space, as in messages, or laid out
over several lines with two blanks per level.  Members are written in the order
in which they are listed.  In a text only the quote, the backslash and the
controls below U+0020 are escaped.
-/

namespace Screenplay.Json

/-- The written form of one character of a text. -/
def writeChar (character : Char) : List Char :=
  match character with
  | '"' => ['\\', '"']
  | '\\' => ['\\', '\\']
  | '\x08' => ['\\', 'b']
  | '\x0c' => ['\\', 'f']
  | '\n' => ['\\', 'n']
  | '\r' => ['\\', 'r']
  | '\t' => ['\\', 't']
  | _ =>
      if character.toNat < 0x20 then
        ['\\', 'u', '0', '0', Nat.digitChar (character.toNat / 16),
          Nat.digitChar (character.toNat % 16)]
      else
        [character]

/-- A text between quotes. -/
def writeText (text : String) : List Char :=
  '"' :: text.toList.flatMap writeChar ++ ['"']

/-- The parts of an array or object, separated by commas. -/
def separate : List (List Char) → List Char
  | [] => []
  | [part] => part
  | part :: parts => part ++ ',' :: separate parts

mutual

/-- The value without white space. -/
def writeChars : Json → List Char
  | .null => "null".toList
  | .bool true => "true".toList
  | .bool false => "false".toList
  | .number value => value.toText.toList
  | .text value => writeText value
  | .array items => '[' :: separate (writeItems items) ++ [']']
  | .object members => '\x7b' :: separate (writeMembers members) ++ ['\x7d']

/-- The items of an array. -/
def writeItems : List Json → List (List Char)
  | [] => []
  | item :: rest => writeChars item :: writeItems rest

/-- The members of an object. -/
def writeMembers : List (String × Json) → List (List Char)
  | [] => []
  | (name, value) :: rest =>
      (writeText name ++ ':' :: writeChars value) :: writeMembers rest

end

/-- The value on one line, without white space. -/
def compact (value : Json) : String :=
  String.ofList (writeChars value)

/-- A line break and the indentation of a level. -/
def newLine (level : Nat) : List Char :=
  '\n' :: List.replicate (2 * level) ' '

/-- The parts of an array or object, each on lines of its own. -/
def separateLines (level : Nat) : List (List Char) → List Char
  | [] => []
  | [part] => newLine level ++ part
  | part :: parts => newLine level ++ part ++ ',' :: separateLines level parts

mutual

/-- The value over several lines, inside as many levels. -/
def layOut (level : Nat) : Json → List Char
  | .array [] => ['[', ']']
  | .array items =>
      '[' :: separateLines (level + 1) (layOutItems (level + 1) items) ++
        newLine level ++ [']']
  | .object [] => ['\x7b', '\x7d']
  | .object members =>
      '\x7b' :: separateLines (level + 1) (layOutMembers (level + 1) members) ++
        newLine level ++ ['\x7d']
  | value => writeChars value

/-- The items of an array. -/
def layOutItems (level : Nat) : List Json → List (List Char)
  | [] => []
  | item :: rest => layOut level item :: layOutItems level rest

/-- The members of an object. -/
def layOutMembers (level : Nat) : List (String × Json) → List (List Char)
  | [] => []
  | (name, value) :: rest =>
      (writeText name ++ [':', ' '] ++ layOut level value) :: layOutMembers level rest

end

/-- The value over several lines. -/
def pretty (value : Json) : String :=
  String.ofList (layOut 0 value)

end Screenplay.Json
