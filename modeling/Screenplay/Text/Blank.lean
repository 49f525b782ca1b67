/-!
# Blank characters and trimming

A character is blank when it has the Unicode property `White_Space`.  Names,
values and numerals in a screenplay may be padded with blanks on either side;
`trim` removes that padding.  Zero-width characters such as U+200B and U+FEFF
are not blank.
-/

namespace Screenplay.Text

/-- The characters with the Unicode property `White_Space`. -/
def isBlank (character : Char) : Bool :=
  let code := character.val
  (0x09 ≤ code && code ≤ 0x0D) || code == 0x20 || code == 0x85 ||
    code == 0xA0 || code == 0x1680 || (0x2000 ≤ code && code ≤ 0x200A) ||
    code == 0x2028 || code == 0x2029 || code == 0x202F || code == 0x205F ||
    code == 0x3000

/-- Remove the blanks at both ends of a list of characters. -/
def trimChars (characters : List Char) : List Char :=
  ((characters.dropWhile isBlank).reverse.dropWhile isBlank).reverse

/-- Remove the blanks at both ends of a text. -/
def trim (text : String) : String :=
  String.ofList (trimChars text.toList)

/-- A text without a character that is not blank. -/
def isBlankText (text : String) : Bool :=
  text.toList.all isBlank

/-- Whether one list of characters occurs inside another. -/
def occursIn (fragment : List Char) : List Char → Bool
  | [] => fragment.isEmpty
  | character :: rest =>
      fragment.isPrefixOf (character :: rest) || occursIn fragment rest

@[simp] theorem toList_trim (text : String) :
    (trim text).toList = trimChars text.toList := by
  simp [trim]

/-- Nothing is left to remove after a leading run has been removed. -/
theorem dropWhile_eq_self_of_head {keep : Char → Bool} {characters : List Char}
    (stops : ∀ head ∈ characters.head?, keep head = false) :
    characters.dropWhile keep = characters := by
  cases characters with
  | nil => rfl
  | cons head rest => simp [stops head rfl]

theorem head?_dropWhile {keep : Char → Bool} {characters : List Char} :
    ∀ head ∈ (characters.dropWhile keep).head?, keep head = false := by
  induction characters with
  | nil => simp
  | cons first rest ih =>
      by_cases holds : keep first
      · simpa [holds] using ih
      · simp [holds]

/-- The last character of a list is that of its non-empty final part. -/
theorem getLast?_dropWhile {keep : Char → Bool} {characters : List Char} {last : Char}
    (isLast : (characters.dropWhile keep).getLast? = some last) :
    characters.getLast? = some last := by
  obtain ⟨dropped, whole⟩ := List.dropWhile_suffix (l := characters) keep
  rw [← whole, List.getLast?_append, isLast]
  rfl

/-- A trimmed list does not begin with a blank. -/
theorem head?_trimChars (characters : List Char) :
    ∀ head ∈ (trimChars characters).head?, isBlank head = false := by
  intro head isHead
  rw [trimChars, List.head?_reverse] at isHead
  have isLast := getLast?_dropWhile isHead
  rw [List.getLast?_reverse] at isLast
  exact head?_dropWhile head isLast

/-- A trimmed list does not end with a blank. -/
theorem getLast?_trimChars (characters : List Char) :
    ∀ last ∈ (trimChars characters).getLast?, isBlank last = false := by
  intro last isLast
  rw [trimChars, List.getLast?_reverse] at isLast
  exact head?_dropWhile last isLast

/-- A list with a blank at neither end is trimmed. -/
theorem trimChars_eq_self {characters : List Char}
    (starts : ∀ head ∈ characters.head?, isBlank head = false)
    (ends : ∀ last ∈ characters.getLast?, isBlank last = false) :
    trimChars characters = characters := by
  rw [← List.head?_reverse] at ends
  rw [trimChars, dropWhile_eq_self_of_head starts, dropWhile_eq_self_of_head ends,
    List.reverse_reverse]

@[simp] theorem trimChars_trimChars (characters : List Char) :
    trimChars (trimChars characters) = trimChars characters :=
  trimChars_eq_self (head?_trimChars characters) (getLast?_trimChars characters)

/-- A trimmed text has no padding left. -/
@[simp] theorem trim_trim (text : String) : trim (trim text) = trim text := by
  rw [trim, toList_trim, trimChars_trimChars, trim]

end Screenplay.Text
