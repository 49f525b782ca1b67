import Screenplay.Text.Blank
import Screenplay.Unicode.Category
import Screenplay.Unicode.Data.Ages
import Screenplay.Unicode.Data.Properties
import Screenplay.Unicode.Data.Scripts
import Screenplay.Unicode.Data.Segmentation

/-!
# Character properties by name

Patterns name sets of characters by a general category, a binary property, a
script, the extensions of a script, a version of the character database or a value
of one of the properties for the segmentation of texts.  Names are compared loosely:
case, blanks, hyphens and low lines do not matter, and neither does a leading `is`.

Membership in a set is a function of the character, `Property.holds`, so that
later layers need not know in which table a set is found.
-/

namespace Screenplay.Unicode

/-- A set of characters that has a name. -/
inductive Property where
  | any
  | ascii
  | categories (members : List Category)
  | table (set : CodeSet)
  /-- The characters of any of the sets. -/
  | anyOf (sets : List CodeSet)

namespace Property

/-- Whether a character has the property. -/
def holds : Property → Char → Bool
  | .any, _ => true
  | .ascii, character => character.toNat < 0x80
  | .categories members, character => members.contains (Category.ofChar character)
  | .table set, character => set.contains character
  | .anyOf sets, character => sets.any (·.contains character)

/-- The code points at which a character with the property may follow one without it,
or the other way round. -/
def edges : Property → List Nat
  | .any => []
  | .ascii => [0x80]
  | .categories _ => Category.table.edges
  | .table set => set.edges
  | .anyOf sets => (sets.map CodeSet.edges).foldr CodeSet.merge []

/-- A name without case, separators and a leading `is`. -/
def normalizeName (name : String) : String :=
  let characters := name.toList.map Char.toLower
  let stripped :=
    match characters with
    | 'i' :: 's' :: rest => rest
    | whole => whole
  let kept := stripped.filter fun character =>
    character.toNat < 0x80 && character != ' ' && character != '_' && character != '-'
  match stripped.length == characters.length, kept with
  | false, ['c'] => "isc"
  | _, _ => String.ofList kept

/-- The entry of a table of named sets that has the given name. -/
def lookupTable (table : List (List String × String)) (name : String) :
    Option Property :=
  (table.find? fun entry => entry.1.contains name).map fun entry =>
    .table (CodeSet.ofText entry.2)

/-- The general category, or group of categories, with a normalized name. -/
def category? (name : String) : Option Property :=
  match name with
  | "any" => some .any
  | "ascii" => some .ascii
  | "assigned" =>
      some (.categories ((Category.abbreviations.map Prod.snd).filter (· != .cn)))
  | _ =>
      (Category.named.find? fun entry => entry.1.contains name).map fun entry =>
        .categories entry.2

/-- The script with a normalized name. -/
def script? (name : String) : Option Property :=
  lookupTable Data.scripts name

/-- The script extensions of the script with a normalized name. -/
def scriptExtensions? (name : String) : Option Property :=
  lookupTable Data.scriptExtensions name <|> script? name

/-- The characters that the version with a normalized name and the versions before it
have assigned. -/
def age? (name : String) : Option Property :=
  let (before, others) := Data.ages.span fun entry => !entry.1.contains name
  others.head?.map fun version =>
    .anyOf ((before ++ [version]).map fun entry => CodeSet.ofText entry.2)

/-- The set that stands under a name of its own: a binary property, a category or
a script. -/
def named? (name : String) : Option Property :=
  let name := normalizeName name
  lookupTable Data.properties name <|> category? name <|> script? name

/-- The set of characters for which a property has a value, where the property is
not a binary one. -/
def valued? (property value : String) : Option Property :=
  let value := normalizeName value
  match normalizeName property with
  | "gc" | "generalcategory" => category? value
  | "sc" | "script" => script? value
  | "scx" | "scriptextensions" => scriptExtensions? value
  | "age" => age? value
  | "gcb" | "graphemeclusterbreak" => lookupTable Data.graphemeBreaks value
  | "wb" | "wordbreak" => lookupTable Data.wordBreaks value
  | "sb" | "sentencebreak" => lookupTable Data.sentenceBreaks value
  | _ => none

/-- The characters with the property `Alphabetic`. -/
def alphabetic : CodeSet := CodeSet.ofText Data.alphabetic

/-- The characters that extend the grapheme before them. -/
def graphemeExtend : CodeSet := CodeSet.ofText Data.graphemeExtend

/-- Decimal digits of any script. -/
def isDigit (character : Char) : Bool :=
  if character.toNat < 0x80 then
    '0' ≤ character && character ≤ '9'
  else
    Category.ofChar character == .nd

/-- The characters of words: letters, marks, decimal digits, connectors and the
two join controls. -/
def isWord (character : Char) : Bool :=
  if character.toNat < 0x80 then
    character.isAlphanum || character == '_'
  else
    alphabetic.contains character || character.toNat == 0x200C ||
      character.toNat == 0x200D ||
      match Category.ofChar character with
      | .mn | .mc | .me | .nd | .pc => true
      | _ => false

/-- Letters of any script. -/
def isAlphabetic (character : Char) : Bool :=
  if character.toNat < 0x80 then
    character.isAlpha
  else
    alphabetic.contains character

/-- Letters and numbers of any script. -/
def isAlphanumeric (character : Char) : Bool :=
  isAlphabetic character ||
    if character.toNat < 0x80 then
      character.isDigit
    else
      match Category.ofChar character with
      | .nd | .nl | .no => true
      | _ => false

/-- Characters that change the look of the one before them instead of standing
for themselves. -/
def isGraphemeExtend (character : Char) : Bool :=
  if character.toNat < 0x300 then false else graphemeExtend.contains character

end Property

end Screenplay.Unicode
