import Screenplay.Proofs.Text.Numeral

/-!
# What numerals with a sign denote

A text denotes an integer if it consists of ASCII digits, at least one, which may follow a
sign.  A reader with a range accepts exactly the numerals of integers in it.
-/

namespace Screenplay.Text

/-- A text of digits, perhaps after a sign, and the integer that it stands for. -/
inductive DenotesInteger (text : String) : Int → Prop where
  | natural {number : Nat} (denotes : Denotes text number) : DenotesInteger text number
  | negative {digits : List Char} (signed : text.toList = '-' :: digits) (nonempty : digits ≠ [])
      (each : ∀ digit ∈ digits, digit.isDigit) :
      DenotesInteger text (-(Nat.ofDigitChars 10 digits 0 : Nat))

variable {text : String} {number lowest highest : Int} {digits : List Char}

/-- A text with a minus sign denotes no natural number. -/
theorem not_denotes_of_minus (signed : text.toList = '-' :: digits) (natural : Nat) :
    ¬ Denotes text natural := by
  intro denotes
  have unsigned : ∀ others, text.toList ≠ '+' :: others := by
    intro others same
    rw [signed] at same
    cases same
  rw [denotes_iff_of_unsigned unsigned, signed, readDigits?_eq_some_iff] at denotes
  have isDigit := denotes.2.1 '-' (List.mem_cons_self ..)
  revert isDigit
  decide

theorem denotesInteger_iff_of_minus (signed : text.toList = '-' :: digits) :
    DenotesInteger text number ↔ ∃ magnitude : Nat,
      readDigits? digits = some magnitude ∧ -(magnitude : Int) = number := by
  simp only [readDigits?_eq_some_iff]
  constructor
  · intro denotes
    cases denotes with
    | natural denotes => exact (not_denotes_of_minus signed _ denotes).elim
    | negative same nonempty each =>
        rw [signed, List.cons.injEq] at same
        rw [← same.2] at nonempty each
        rw [← same.2]
        exact ⟨_, ⟨nonempty, each, rfl⟩, rfl⟩
  · intro holds
    rcases holds with ⟨_, ⟨nonempty, each, rfl⟩, rfl⟩
    exact .negative signed nonempty each

theorem denotesInteger_iff_of_not_minus (unsigned : ∀ digits, text.toList ≠ '-' :: digits) :
    DenotesInteger text number ↔ ∃ magnitude : Nat,
      Denotes text magnitude ∧ (magnitude : Int) = number := by
  constructor
  · intro denotes
    cases denotes with
    | natural denotes => exact ⟨_, denotes, rfl⟩
    | negative signed => exact (unsigned _ signed).elim
  · intro holds
    rcases holds with ⟨magnitude, denotes, rfl⟩
    exact .natural denotes

/-- A magnitude with its sign. -/
theorem map_magnitude_eq_some_iff {magnitude? : Option Nat} {image : Int → Int} :
    ((magnitude?.bind fun magnitude => pure (magnitude : Int)).map image) = some number ↔
      ∃ magnitude : Nat, magnitude? = some magnitude ∧ image magnitude = number := by
  cases magnitude? <;> simp

/-- Keeping the values of a range. -/
theorem bind_range_eq_some_iff {value? : Option Int} :
    (value?.bind fun value => if lowest ≤ value ∧ value ≤ highest then some value else none) =
        some number ↔
      value? = some number ∧ lowest ≤ number ∧ number ≤ highest := by
  rw [Option.bind_eq_some_iff]
  constructor
  · intro holds
    rcases holds with ⟨value, rfl, bounded⟩
    split at bounded
    next within =>
      cases bounded
      exact ⟨rfl, within⟩
    next => cases bounded
  · intro holds
    rcases holds with ⟨rfl, within⟩
    exact ⟨number, rfl, if_pos within⟩

/-- A reader accepts the numerals of the integers in its range, and nothing else. -/
theorem readInt?_eq_some_iff :
    readInt? lowest highest text = some number ↔
      DenotesInteger text number ∧ lowest ≤ number ∧ number ≤ highest := by
  simp only [readInt?, Option.bind_eq_bind]
  split
  next digits signed =>
    rw [bind_range_eq_some_iff, denotesInteger_iff_of_minus signed,
      map_magnitude_eq_some_iff]
  next digits signed =>
    have unsigned : ∀ others, text.toList ≠ '-' :: others := by
      intro others same
      rw [signed] at same
      cases same
    rw [bind_range_eq_some_iff, denotesInteger_iff_of_not_minus unsigned,
      map_magnitude_eq_some_iff]
    simp only [denotes_iff_of_plus signed]
  next unsigned noPlus =>
    rw [bind_range_eq_some_iff, denotesInteger_iff_of_not_minus unsigned,
      map_magnitude_eq_some_iff]
    simp only [denotes_iff_of_unsigned noPlus]

/-- What denotes an integer denotes no other. -/
theorem DenotesInteger.unique {left right : Int} (first : DenotesInteger text left)
    (second : DenotesInteger text right) : left = right := by
  have readFirst : readInt? (min left right) (max left right) text = some left :=
    readInt?_eq_some_iff.2 ⟨first, Int.min_le_left .., Int.le_max_left ..⟩
  have readSecond : readInt? (min left right) (max left right) text = some right :=
    readInt?_eq_some_iff.2 ⟨second, Int.min_le_right .., Int.le_max_right ..⟩
  exact Option.some.inj (readFirst.symm.trans readSecond)

end Screenplay.Text
