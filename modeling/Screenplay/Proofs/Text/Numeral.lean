import Screenplay.Text.Blank
import Screenplay.Text.Numeral

/-!
# What numerals denote

A text denotes a natural number if it consists of ASCII digits, at least one, which
may follow a plus sign.  A reader with a limit accepts exactly the numerals of
numbers up to it.  Every number is denoted by its decimal digits, which have no
padding.  It is also what its hexadecimal digits are read as.
-/

namespace Screenplay.Text

/-- A text of digits, perhaps after a plus sign, and the number that they make up. -/
def Denotes (text : String) (number : Nat) : Prop :=
  ∃ digits : List Char, digits ≠ [] ∧ (∀ digit ∈ digits, digit.isDigit) ∧
    (text.toList = digits ∨ text.toList = '+' :: digits) ∧
    Nat.ofDigitChars 10 digits 0 = number

theorem digitValue?_eq_some_iff {character : Char} {value : Nat} :
    digitValue? character = some value ↔
      character.isDigit ∧ character.toNat - '0'.toNat = value := by
  have bounds : ('0' ≤ character ∧ character ≤ '9') ↔ character.isDigit = true := by
    simp [Char.isDigit, Char.le_def]
  simp only [digitValue?, bounds]
  split <;> simp_all

theorem readDigitsFrom_eq_some_iff {characters : List Char} {value number : Nat} :
    readDigitsFrom value characters = some number ↔
      (∀ digit ∈ characters, digit.isDigit) ∧
        Nat.ofDigitChars 10 characters value = number := by
  induction characters generalizing value with
  | nil => simp [readDigitsFrom]
  | cons first rest ih =>
      simp only [readDigitsFrom, Option.bind_eq_bind, Option.bind_eq_some_iff,
        digitValue?_eq_some_iff, ih, List.forall_mem_cons, Nat.ofDigitChars_cons]
      constructor
      · intro holds
        rcases holds with ⟨digit, ⟨isDigit, rfl⟩, digits, total⟩
        exact ⟨⟨isDigit, digits⟩, total⟩
      · intro holds
        rcases holds with ⟨⟨isDigit, digits⟩, total⟩
        exact ⟨_, ⟨isDigit, rfl⟩, digits, total⟩

theorem readDigits?_eq_some_iff {characters : List Char} {number : Nat} :
    readDigits? characters = some number ↔
      characters ≠ [] ∧ (∀ digit ∈ characters, digit.isDigit) ∧
        Nat.ofDigitChars 10 characters 0 = number := by
  cases characters with
  | nil => simp [readDigits?]
  | cons first rest => simp [readDigits?, readDigitsFrom_eq_some_iff]

/-- Keeping the values up to a limit. -/
theorem bind_limit_eq_some_iff {value? : Option Nat} {limit number : Nat} :
    (value?.bind fun value => if value ≤ limit then some value else none) = some number ↔
      value? = some number ∧ number ≤ limit := by
  rw [Option.bind_eq_some_iff]
  constructor
  · intro holds
    rcases holds with ⟨value, rfl, bounded⟩
    split at bounded
    next within =>
      cases bounded
      exact ⟨rfl, within⟩
    next => simp at bounded
  · intro holds
    rcases holds with ⟨rfl, within⟩
    exact ⟨number, rfl, if_pos within⟩

/-- After a plus sign there are digits only. -/
theorem denotes_iff_of_plus {text : String} {number : Nat} {digits : List Char}
    (signed : text.toList = '+' :: digits) :
    Denotes text number ↔ readDigits? digits = some number := by
  have plus : ('+' : Char).isDigit = false := by decide
  rw [readDigits?_eq_some_iff]
  constructor
  · intro holds
    rcases holds with ⟨others, nonempty, each, unsigned | same, total⟩
    · have impossible := each '+' (by simp [← unsigned, signed])
      simp [plus] at impossible
    · rw [signed, List.cons.injEq] at same
      rw [same.2]
      exact ⟨nonempty, each, total⟩
  · intro holds
    rcases holds with ⟨nonempty, each, total⟩
    exact ⟨digits, nonempty, each, .inr signed, total⟩

/-- Without a plus sign there are digits only. -/
theorem denotes_iff_of_unsigned {text : String} {number : Nat}
    (unsigned : ∀ digits, text.toList ≠ '+' :: digits) :
    Denotes text number ↔ readDigits? text.toList = some number := by
  rw [readDigits?_eq_some_iff]
  constructor
  · intro holds
    rcases holds with ⟨others, nonempty, each, same | signed, total⟩
    · rw [same]
      exact ⟨nonempty, each, total⟩
    · exact (unsigned others signed).elim
  · intro holds
    rcases holds with ⟨nonempty, each, total⟩
    exact ⟨text.toList, nonempty, each, .inl rfl, total⟩

/-- A reader accepts the numerals of the numbers up to its limit, and nothing else. -/
theorem readNat?_eq_some_iff {limit number : Nat} {text : String} :
    readNat? limit text = some number ↔ Denotes text number ∧ number ≤ limit := by
  simp only [readNat?, Option.bind_eq_bind]
  split
  next digits signed => rw [bind_limit_eq_some_iff, denotes_iff_of_plus signed]
  next unsigned => rw [bind_limit_eq_some_iff, denotes_iff_of_unsigned unsigned]

/-- A number is denoted by its decimal digits. -/
theorem denotes_toString (number : Nat) : Denotes (toString number) number :=
  ⟨Nat.toDigits 10 number, Nat.toDigits_ne_nil,
    fun _ member => Nat.isDigit_of_mem_toDigits (by decide) (by decide) member,
    .inl (by rw [Nat.toString_eq_repr, Nat.toList_repr]), Nat.ofDigitChars_ten_toDigits⟩

/-- What denotes a number denotes no other. -/
theorem Denotes.unique {text : String} {left right : Nat}
    (first : Denotes text left) (second : Denotes text right) : left = right := by
  have readFirst : readNat? (max left right) text = some left :=
    readNat?_eq_some_iff.2 ⟨first, Nat.le_max_left ..⟩
  have readSecond : readNat? (max left right) text = some right :=
    readNat?_eq_some_iff.2 ⟨second, Nat.le_max_right ..⟩
  exact Option.some.inj (readFirst.symm.trans readSecond)

/-- A text with a blank at neither end has no padding. -/
theorem trim_eq_self_of_forall {text : String}
    (printed : ∀ character ∈ text.toList, isBlank character = false) :
    trim text = text := by
  have keeps : ∀ characters : List Char, (∀ character ∈ characters, isBlank character = false) →
      characters.dropWhile isBlank = characters := fun characters each =>
    dropWhile_eq_self_of_head fun head isHead =>
      each head (List.mem_of_mem_head? (Option.mem_def.1 isHead))
  rw [trim, trimChars, keeps _ printed,
    keeps _ (fun character member => printed character (List.mem_reverse.1 member)),
    List.reverse_reverse, String.ofList_toList]

theorem isBlank_eq_false_of_isDigit {character : Char} (isDigit : character.isDigit = true) :
    isBlank character = false := by
  have above : 48 ≤ character.val.toNat := by
    simpa [Char.isDigit, UInt32.le_iff_toNat_le] using (Bool.and_eq_true_iff.1 isDigit).1
  have below : character.val.toNat ≤ 57 := by
    simpa [Char.isDigit, UInt32.le_iff_toNat_le] using (Bool.and_eq_true_iff.1 isDigit).2
  simp only [isBlank, Bool.or_eq_false_iff, Bool.and_eq_false_iff, decide_eq_false_iff_not,
    beq_eq_false_iff_ne, ne_eq, UInt32.le_iff_toNat_le, ← UInt32.toNat_inj, UInt32.reduceToNat]
  omega

@[simp] theorem trim_toString (number : Nat) : trim (toString number) = toString number := by
  apply trim_eq_self_of_forall
  intro character member
  rw [Nat.toString_eq_repr, Nat.toList_repr] at member
  exact isBlank_eq_false_of_isDigit
    (Nat.isDigit_of_mem_toDigits (by decide) (by decide) member)

/-! ## Hexadecimal digits -/

theorem hexValue?_digitChar {digit : Nat} (small : digit < 16) :
    hexValue? (Nat.digitChar digit) = some digit :=
  (by decide : ∀ digit < 16, hexValue? (Nat.digitChar digit) = some digit) digit small

theorem readHexFrom_append {value : Nat} {first second : List Char} :
    readHexFrom value (first ++ second) =
      (readHexFrom value first).bind fun value => readHexFrom value second := by
  induction first generalizing value with
  | nil => rfl
  | cons character rest ih => simp [readHexFrom, ih, Option.bind_assoc]

/-- A number is read back from its digits. -/
theorem readHexFrom_hexDigits (number : Nat) : readHexFrom 0 (hexDigits number) = some number := by
  induction number using Nat.strongRecOn with
  | ind number ih =>
      rw [hexDigits, Nat.toDigits_eq_if (by decide)]
      split
      next small => simp [readHexFrom, hexValue?_digitChar small]
      next large =>
        have smaller := ih (number / 16) (Nat.div_lt_self (by omega) (by decide))
        rw [hexDigits] at smaller
        rw [readHexFrom_append, smaller, Option.bind_some]
        simp only [readHexFrom, hexValue?_digitChar (Nat.mod_lt number (by decide)),
          Option.bind_eq_bind, Option.bind_some, Option.some.injEq]
        omega

theorem isSome_hexValue?_of_readHexFrom {value number : Nat} {characters : List Char}
    (read : readHexFrom value characters = some number) :
    ∀ character ∈ characters, (hexValue? character).isSome = true := by
  induction characters generalizing value with
  | nil => exact nofun
  | cons character rest ih =>
      obtain ⟨digit, isDigit, restRead⟩ := Option.bind_eq_some_iff.1 read
      rw [List.forall_mem_cons]
      exact ⟨Option.isSome_of_eq_some isDigit, ih restRead⟩

end Screenplay.Text
