import Screenplay.Text.Blank
import Screenplay.Unicode.Folding
import Screenplay.Unicode.Property

/-!
# Character classes

The sets of characters that patterns are made of.  A class is kept as it was put
together, and membership is read off its structure; in particular, a class that
ignores case holds a character when it holds one of the variants of that
character.
-/

namespace Screenplay.Pattern

/-- A set of characters. -/
inductive CharClass where
  | empty
  | span (first last : Char)
  | named (property : Unicode.Property)
  | digit
  | blank
  | word
  | complement (inner : CharClass)
  | union (left right : CharClass)
  | intersection (left right : CharClass)
  | difference (left right : CharClass)
  | symmetricDifference (left right : CharClass)
  | ignoringCase (inner : CharClass)
  | ignoringAsciiCase (inner : CharClass)

namespace CharClass

/-- The class of one character. -/
def single (character : Char) : CharClass := .span character character

/-- All characters. -/
def any : CharClass := .complement .empty

/-- The ASCII letters that differ from the given one at most in case. -/
def asciiVariants (character : Char) : List Char :=
  [character.toLower, character.toUpper]

/-- Whether a character belongs to the class. -/
def contains : CharClass → Char → Bool
  | .empty, _ => false
  | .span first last, character => first ≤ character && character ≤ last
  | .named property, character => property.holds character
  | .digit, character => Unicode.Property.isDigit character
  | .blank, character => Text.isBlank character
  | .word, character => Unicode.Property.isWord character
  | .complement inner, character => !inner.contains character
  | .union left right, character => left.contains character || right.contains character
  | .intersection left right, character =>
      left.contains character && right.contains character
  | .difference left right, character =>
      left.contains character && !right.contains character
  | .symmetricDifference left right, character =>
      left.contains character != right.contains character
  | .ignoringCase inner, character =>
      (Unicode.Folding.variants character).any inner.contains
  | .ignoringAsciiCase inner, character =>
      (asciiVariants character).any inner.contains

/-- A class that holds one character, up to case, holds the characters that differ
from it at most in case. -/
@[simp] theorem contains_ignoringCase_single (expected character : Char) :
    (ignoringCase (single expected)).contains character =
      Unicode.Folding.sameUpToCase character expected := by
  rw [Bool.eq_iff_iff]
  simp only [contains, single, List.any_eq_true, Unicode.Folding.mem_variants,
    Bool.and_eq_true, decide_eq_true_eq]
  constructor
  · rintro ⟨variant, same, above, below⟩
    rwa [← Char.le_antisymm below above]
  · intro same
    exact ⟨expected, same, Char.le_refl _, Char.le_refl _⟩

/-! ## Classes as sets of code points -/

/-- Whether a code point is that of a character of the class. -/
def containsCode (characters : CharClass) (code : Nat) : Bool :=
  code.isValidChar && characters.contains (Char.ofNat code)

/-- The code points, apart from the bounds of what is a character, at which membership
in the class may change. -/
def edges : CharClass → List Nat
  | .empty => []
  | .span first last => [first.toNat, last.toNat + 1]
  | .named property => property.edges
  | .digit => Unicode.CodeSet.merge [0x30, 0x3A, 0x80] Unicode.Category.table.edges
  | .blank =>
      [0x09, 0x0E, 0x20, 0x21, 0x85, 0x86, 0xA0, 0xA1, 0x1680, 0x1681, 0x2000, 0x200B,
        0x2028, 0x202A, 0x202F, 0x2030, 0x205F, 0x2060, 0x3000, 0x3001]
  | .word =>
      Unicode.CodeSet.merge
        [0x30, 0x3A, 0x41, 0x5B, 0x5F, 0x60, 0x61, 0x7B, 0x80, 0x200C, 0x200E]
        (Unicode.CodeSet.merge Unicode.Property.alphabetic.edges
          Unicode.Category.table.edges)
  | .complement inner => inner.edges
  | .union left right | .intersection left right | .difference left right
  | .symmetricDifference left right => Unicode.CodeSet.merge left.edges right.edges
  | .ignoringCase inner =>
      -- Case matters at those characters only that have another membership than one of
      -- their variants.
      let changed := Unicode.Folding.families.get.filter fun (character, variants) =>
        variants.any inner.contains != inner.contains character
      changed.flatMap (fun (character, _) => [character.toNat, character.toNat + 1]) ++
        inner.edges
  | .ignoringAsciiCase inner =>
      Unicode.CodeSet.merge (List.range' 0x41 27 ++ List.range' 0x61 27) inner.edges

/-- The bounds of what is a character. -/
def characterBounds : List Nat := [0, 0xD800, 0xE000, 0x110000]

/-- The character that a class consists of, up to case. -/
def single? : CharClass → Option Char
  | .ignoringCase (.span first last) => if first = last then some first else none
  | _ => none

/-- The set of the code points of a class. -/
def codes (characters : CharClass) : Unicode.CodeSet :=
  match characters.single? with
  | some character =>
      let variants := (Unicode.Folding.variants character).map Char.toNat
      .sweep variants.contains (variants.flatMap fun code => [code, code + 1])
  | none =>
      .sweep characters.containsCode (Unicode.CodeSet.merge characterBounds characters.edges)

end CharClass

end Screenplay.Pattern
