import Screenplay.Text.Numeral

/-!
# Tokens of JSON documents

A document is cut into tokens one character at a time.  Tokens are spelled, not
interpreted: a text is the list of its characters and numeric escapes, a number
the list of its digits.  Whether an escape pairs up with its neighbour, or a
number fits a double, is a question for whoever interprets the token.

A maximal run of letters, digits, signs and full stops is one token, since two
tokens of that kind never stand side by side.
-/

namespace Screenplay.Json

/-- One unit of a text: a character, or the 16 bits of a numeric escape. -/
inductive Piece where
  | char (character : Char)
  | code (unit : Nat)
  deriving DecidableEq, Repr

/-- A spelled number.  The fraction and the exponent are absent or have digits. -/
structure Spelling where
  negative : Bool
  whole : List Char
  fraction : Option (List Char)
  exponent : Option (Bool × List Char)
  deriving DecidableEq, Repr

/-- A token of a document. -/
inductive Token where
  | beginArray
  | endArray
  | beginObject
  | endObject
  | comma
  | colon
  | null
  | bool (value : Bool)
  | number (spelling : Spelling)
  | text (pieces : List Piece)
  deriving DecidableEq, Repr

/-- White space between tokens. -/
def isSpace (character : Char) : Bool :=
  character == ' ' || character == '\t' || character == '\n' || character == '\r'

/-- The characters of words and numbers. -/
def isWordChar (character : Char) : Bool :=
  character.isAlphanum || character == '+' || character == '-' || character == '.'

namespace Spelling

/-- Read the exponent part of a number, if there is one. -/
def readExponent? : List Char → Option (Option (Bool × List Char))
  | [] => some none
  | mark :: rest =>
      if mark == 'e' || mark == 'E' then
        let (negative, digits) :=
          match rest with
          | '-' :: digits => (true, digits)
          | '+' :: digits => (false, digits)
          | digits => (false, digits)
        if digits.isEmpty || !digits.all Char.isDigit then none
        else some (some (negative, digits))
      else
        none

/-- Read what follows the sign of a number: digits without a leading zero, then optionally a
fraction and an exponent. -/
def ofUnsigned? (negative : Bool) (unsigned : List Char) : Option Spelling :=
  let whole := unsigned.takeWhile Char.isDigit
  let rest := unsigned.dropWhile Char.isDigit
  if whole.isEmpty || (whole.head? == some '0' && whole.length != 1) then
    none
  else
    match rest with
    | '.' :: afterPoint =>
        let fraction := afterPoint.takeWhile Char.isDigit
        if fraction.isEmpty then
          none
        else do
          let exponent ← readExponent? (afterPoint.dropWhile Char.isDigit)
          some ⟨negative, whole, some fraction, exponent⟩
    | rest => do
        let exponent ← readExponent? rest
        some ⟨negative, whole, none, exponent⟩

/-- Read a number, which may have a minus sign. -/
def ofWord? : List Char → Option Spelling
  | '-' :: unsigned => ofUnsigned? true unsigned
  | unsigned => ofUnsigned? false unsigned

end Spelling

namespace Token

/-- The token that a run of word characters spells. -/
def ofWord? (word : List Char) : Option Token :=
  match String.ofList word with
  | "null" => some .null
  | "true" => some (.bool true)
  | "false" => some (.bool false)
  | _ => (Spelling.ofWord? word).map .number

/-- The character written by a backslash and a letter. -/
def escaped? : Char → Option Char
  | '"' => some '"'
  | '\\' => some '\\'
  | '/' => some '/'
  | 'b' => some '\x08'
  | 'f' => some '\x0c'
  | 'n' => some '\n'
  | 'r' => some '\r'
  | 't' => some '\t'
  | _ => none

/-- What the scanner is in the middle of; pieces and letters are held in reverse
order. -/
inductive Mode where
  | between
  | word (letters : List Char)
  | text (pieces : List Piece)
  | escape (pieces : List Piece)
  | code (pieces : List Piece) (missing : Nat) (unit : Nat)
  deriving DecidableEq, Repr

/-- The tokens found so far, in reverse order, and the mode of the scanner. -/
structure Scanner where
  tokens : List Token
  mode : Mode
  deriving DecidableEq, Repr

namespace Scanner

/-- Read a character that stands between tokens. -/
def stepBetween (tokens : List Token) (character : Char) : Option Scanner :=
  if isSpace character then some ⟨tokens, .between⟩
  else if isWordChar character then some ⟨tokens, .word [character]⟩
  else
    match character with
    | '"' => some ⟨tokens, .text []⟩
    | '[' => some ⟨.beginArray :: tokens, .between⟩
    | ']' => some ⟨.endArray :: tokens, .between⟩
    | '\x7b' => some ⟨.beginObject :: tokens, .between⟩
    | '\x7d' => some ⟨.endObject :: tokens, .between⟩
    | ',' => some ⟨.comma :: tokens, .between⟩
    | ':' => some ⟨.colon :: tokens, .between⟩
    | _ => none

/-- Read one character. -/
def step (scanner : Scanner) (character : Char) : Option Scanner :=
  match scanner.mode with
  | .between => stepBetween scanner.tokens character
  | .word letters =>
      if isWordChar character then
        some ⟨scanner.tokens, .word (character :: letters)⟩
      else do
        let token ← Token.ofWord? letters.reverse
        stepBetween (token :: scanner.tokens) character
  | .text pieces =>
      if character == '"' then
        some ⟨.text pieces.reverse :: scanner.tokens, .between⟩
      else if character == '\\' then
        some ⟨scanner.tokens, .escape pieces⟩
      else if character.toNat < 0x20 then
        none
      else
        some ⟨scanner.tokens, .text (.char character :: pieces)⟩
  | .escape pieces =>
      if character == 'u' then
        some ⟨scanner.tokens, .code pieces 4 0⟩
      else do
        let meant ← escaped? character
        some ⟨scanner.tokens, .text (.char meant :: pieces)⟩
  | .code pieces missing unit => do
      let digit ← Text.hexValue? character
      let unit := 16 * unit + digit
      if missing ≤ 1 then
        some ⟨scanner.tokens, .text (.code unit :: pieces)⟩
      else
        some ⟨scanner.tokens, .code pieces (missing - 1) unit⟩

/-- The tokens of a document that ends here. -/
def finish? (scanner : Scanner) : Option (List Token) :=
  match scanner.mode with
  | .between => some scanner.tokens.reverse
  | .word letters => do
      let token ← Token.ofWord? letters.reverse
      some (token :: scanner.tokens).reverse
  | _ => none

end Scanner

/-- Cut a document into tokens. -/
def scan? (document : String) : Option (List Token) := do
  let scanner ← document.toList.foldlM Scanner.step ⟨[], .between⟩
  scanner.finish?

end Token

end Screenplay.Json
