import Screenplay.Proofs.Text.Numeral
import Screenplay.Text.Quoted

/-!
# Quoted texts can be told apart

The written form of a character between quotes shows where it ends, whatever follows.  It is
the character itself, or it begins with a backslash: then a letter follows, or the code point
in braces.  Two texts that are quoted alike are therefore the same text.
-/

namespace Screenplay.Text

/-- The characters that are written as a backslash and a letter, with their letters. -/
def quoteLetters : List (Char × Char) :=
  [('"', '"'), ('\\', '\\'), ('\n', 'n'), ('\t', 't'), ('\r', 'r'), ('\x00', '0')]

/-- How a character may be written between quotes. -/
inductive Quotes : Char → List Char → Prop where
  | plain {character : Char} (noEscape : character ≠ '\\') : Quotes character [character]
  | letter {character letter : Char} (written : (character, letter) ∈ quoteLetters) :
      Quotes character ['\\', letter]
  | code (character : Char) :
      Quotes character ('\\' :: 'u' :: '\x7b' :: (hexDigits character.toNat ++ ['\x7d']))

theorem quotes_quoteChar (character : Char) : Quotes character (quoteChar character) := by
  rw [quoteChar.eq_def]
  split
  case h_7 _ noEscape _ _ _ _ =>
    split
    · exact .code character
    · exact .plain noEscape
  all_goals exact .letter (by decide)

/-- A character that occurs in neither of two lists shows where they end. -/
theorem append_cons_inj_of_not_mem {α : Type} {stop : α} {left right rest other : List α}
    (notLeft : stop ∉ left) (notRight : stop ∉ right)
    (same : left ++ stop :: rest = right ++ stop :: other) : left = right ∧ rest = other := by
  induction left generalizing right with
  | nil =>
      cases right with
      | nil => exact ⟨rfl, (List.cons.inj same).2⟩
      | cons first right =>
          obtain ⟨rfl, -⟩ := List.cons.inj same
          exact (notRight List.mem_cons_self).elim
  | cons first left ih =>
      cases right with
      | nil =>
          obtain ⟨rfl, -⟩ := List.cons.inj same
          exact (notLeft List.mem_cons_self).elim
      | cons second right =>
          obtain ⟨rfl, sameRest⟩ := List.cons.inj same
          rw [List.mem_cons, not_or] at notLeft notRight
          obtain ⟨rfl, rfl⟩ := ih notLeft.2 notRight.2 sameRest
          exact ⟨rfl, rfl⟩

theorem brace_not_mem_hexDigits (number : Nat) : '\x7d' ∉ hexDigits number := by
  intro among
  have isDigit := isSome_hexValue?_of_readHexFrom (readHexFrom_hexDigits number) _ among
  exact absurd isDigit (by decide)

theorem hexDigits_inj {left right : Nat} (same : hexDigits left = hexDigits right) :
    left = right := by
  have read := readHexFrom_hexDigits left
  rw [same, readHexFrom_hexDigits] at read
  exact (Option.some.inj read).symm

theorem eq_of_quoteLetters {left right letter : Char} (first : (left, letter) ∈ quoteLetters)
    (second : (right, letter) ∈ quoteLetters) : left = right := by
  have unique : ∀ pair ∈ quoteLetters, ∀ other ∈ quoteLetters,
      pair.2 = other.2 → pair.1 = other.1 := by decide
  exact unique _ first _ second rfl

theorem not_mem_quoteLetters_u (character : Char) : (character, 'u') ∉ quoteLetters := by
  intro among
  have other : ∀ pair ∈ quoteLetters, pair.2 ≠ 'u' := by decide
  exact other _ among rfl

/-- What a character is written as says which it is and where what follows begins. -/
theorem Quotes.append_inj {first second : Char} {written other rest otherRest : List Char}
    (quotes : Quotes first written) (otherQuotes : Quotes second other)
    (same : written ++ rest = other ++ otherRest) : first = second ∧ rest = otherRest := by
  cases quotes with
  | plain noEscape =>
      cases otherQuotes with
      | plain => simpa using same
      | letter | code => exact (noEscape (List.cons.inj same).1).elim
  | @letter letter isWritten =>
      cases otherQuotes with
      | plain noEscape => exact (noEscape (List.cons.inj same).1.symm).elim
      | letter isOther =>
          obtain ⟨rfl, sameRest⟩ := by simpa using same
          exact ⟨eq_of_quoteLetters isWritten isOther, sameRest⟩
      | code =>
          obtain ⟨rfl, -⟩ : letter = 'u' ∧ _ := by simpa using same
          exact (not_mem_quoteLetters_u first isWritten).elim
  | code =>
      cases otherQuotes with
      | plain noEscape => exact (noEscape (List.cons.inj same).1.symm).elim
      | @letter letter isOther =>
          obtain ⟨rfl, -⟩ : 'u' = letter ∧ _ := by simpa using same
          exact (not_mem_quoteLetters_u second isOther).elim
      | code =>
          have digits : hexDigits first.toNat ++ '\x7d' :: rest =
              hexDigits second.toNat ++ '\x7d' :: otherRest := by simpa using same
          obtain ⟨sameDigits, sameRest⟩ := append_cons_inj_of_not_mem
            (brace_not_mem_hexDigits _) (brace_not_mem_hexDigits _) digits
          exact ⟨Char.toNat_inj.1 (hexDigits_inj sameDigits), sameRest⟩

theorem flatMap_quoteChar_inj {left right : List Char}
    (same : left.flatMap quoteChar = right.flatMap quoteChar) : left = right := by
  have nonempty (character : Char) : quoteChar character ≠ [] := by
    have quotes := quotes_quoteChar character
    generalize quoteChar character = written at quotes
    cases quotes <;> exact List.cons_ne_nil _ _
  induction left generalizing right with
  | nil =>
      cases right with
      | nil => rfl
      | cons second right => exact (nonempty second (List.append_eq_nil_iff.1 same.symm).1).elim
  | cons first left ih =>
      cases right with
      | nil => exact (nonempty first (List.append_eq_nil_iff.1 same).1).elim
      | cons second right =>
          rw [List.flatMap_cons, List.flatMap_cons] at same
          obtain ⟨rfl, sameRest⟩ :=
            (quotes_quoteChar first).append_inj (quotes_quoteChar second) same
          rw [ih sameRest]

/-- A text is known by its quoted form. -/
theorem quote_inj {left right : String} : quote left = quote right ↔ left = right := by
  constructor
  · intro same
    rw [quote, quote, String.ofList_inj, List.append_left_inj, List.cons_inj_right] at same
    exact String.toList_inj.1 (flatMap_quoteChar_inj same)
  · intro same
    rw [same]

end Screenplay.Text
