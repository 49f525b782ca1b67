import Screenplay.Proofs.Document.Property

/-!
# Natural numbers in documents

A natural number is written as a JSON number or as a text.  The two readers of
natural numbers look at a value in different ways: one reads the written form of
whatever it is given, the other looks at numbers themselves.  Both accept the values
that stand for a number up to their limit, and read that number.
-/

namespace Screenplay

namespace Text

/-- Nothing but digits and a plus sign occurs in a numeral. -/
theorem Denotes.isDigit_or_plus {text : String} {number : Nat} (denotes : Denotes text number)
    {character : Char} (occurs : character ∈ text.toList) :
    character.isDigit = true ∨ character = '+' := by
  rcases denotes with ⟨digits, _, each, unsigned | signed, _⟩
  · exact .inl (each character (unsigned ▸ occurs))
  · rw [signed, List.mem_cons] at occurs
    rcases occurs with plus | among
    · exact .inr plus
    · exact .inl (each character among)

theorem not_denotes_of_mem {text : String} {number : Nat} (character : Char)
    (occurs : character ∈ text.toList) (foreign : ¬(character.isDigit = true ∨ character = '+')) :
    ¬ Denotes text number :=
  fun denotes => foreign (denotes.isDigit_or_plus occurs)

end Text

namespace Json

/-- The written form of a double has a full stop or an exponent. -/
theorem Number.mem_decimalText (decimal : Decimal) :
    '.' ∈ (Number.decimalText decimal).toList ∨ 'e' ∈ (Number.decimalText decimal).toList := by
  simp only [Number.decimalText, String.toList_ofList]
  split
  · left; simp
  · split
    · left; simp
    · split
      · left; simp
      · right; simp

theorem Number.mem_doubleText (value : Float) :
    '.' ∈ (Number.doubleText value).toList ∨ 'e' ∈ (Number.doubleText value).toList := by
  simp only [Number.doubleText]
  generalize (if value.toBits >>> 63 = 1 then "-" else "") = sign
  split
  · left
    simp [String.toList_append]
  · rw [String.toList_append, List.mem_append, List.mem_append]
    exact (Number.mem_decimalText _).imp .inr .inr

/-- A double is not written as a numeral, even when its value is a whole number. -/
theorem Number.not_denotes_doubleText (value : Float) (number : Nat) :
    ¬ Text.Denotes (Number.doubleText value) number := by
  rcases Number.mem_doubleText value with point | mark
  · exact Text.not_denotes_of_mem _ point (by decide)
  · exact Text.not_denotes_of_mem _ mark (by decide)

theorem not_denotes_toString_of_neg {value : Int} (below : value < 0) (number : Nat) :
    ¬ Text.Denotes (toString value) number := by
  rcases Int.eq_negSucc_of_lt_zero below with ⟨magnitude, rfl⟩
  refine Text.not_denotes_of_mem '-' ?_ (by decide)
  change '-' ∈ ("-" ++ Nat.repr (magnitude + 1)).toList
  simp [String.toList_append]

end Json

namespace Document

/-- A value of a document that stands for a natural number. -/
inductive StandsFor : Json → Nat → Prop where
  | number (value : UInt64) : StandsFor (.number (.natural value)) value.toNat
  | text {written : String} {number : Nat}
      (denotes : Text.Denotes (Text.trim written) number) : StandsFor (.text written) number

/-- The values that stand for natural numbers are those whose written form does. -/
theorem denotes_numeral_iff {value : Json} {number : Nat} :
    Text.Denotes (numeral value) number ↔ StandsFor value number := by
  constructor
  · intro denotes
    cases value with
    | null => exact (Text.not_denotes_of_mem 'n' (by decide) (by decide) denotes).elim
    | bool value =>
        cases value with
        | false =>
            exact (Text.not_denotes_of_mem 'e' (by decide) (by decide) denotes).elim
        | true =>
            exact (Text.not_denotes_of_mem 'e' (by decide) (by decide) denotes).elim
    | number value =>
        cases value with
        | natural value =>
            rw [denotes.unique (Text.denotes_toString value.toNat)]
            exact .number value
        | negative value below =>
            have negative : value.toInt < 0 := by simpa [Int64.lt_iff_toInt_lt] using below
            exact (Json.not_denotes_toString_of_neg negative number denotes).elim
        | double value => exact (Json.Number.not_denotes_doubleText value number denotes).elim
    | text written => exact .text denotes
    | array items =>
        refine (Text.not_denotes_of_mem '[' ?_ (by decide) denotes).elim
        simp [numeral, Json.compact, Json.writeChars]
    | object members =>
        refine (Text.not_denotes_of_mem '\x7b' ?_ (by decide) denotes).elim
        simp [numeral, Json.compact, Json.writeChars]
  · intro stands
    cases stands with
    | number value => exact Text.denotes_toString value.toNat
    | text denotes => exact denotes

theorem readNatural_eq_ok_iff {context name : String} {limit number : Nat} {value : Json} :
    readNatural context name limit value = .ok number ↔
      StandsFor value number ∧ number ≤ limit := by
  rw [← denotes_numeral_iff, ← Text.readNat?_eq_some_iff, readNatural]
  split <;> simp_all

theorem count?_eq_some_iff {value : Json} {number : Nat} :
    count? value = some number ↔ StandsFor value number ∧ number ≤ UInt32.size - 1 := by
  constructor
  · intro read
    simp only [count?] at read
    split at read
    next natural =>
      split at read
      next within =>
        cases read
        exact ⟨.number natural, Nat.le_pred_of_lt within⟩
      next => simp at read
    next written =>
      rcases Text.readNat?_eq_some_iff.1 read with ⟨denotes, within⟩
      exact ⟨.text denotes, within⟩
    next => simp at read
  · intro holds
    rcases holds with ⟨stands, within⟩
    cases stands with
    | number natural =>
        have fits : natural.toNat < UInt32.size := Nat.lt_of_le_pred (by decide) within
        simp [count?, fits]
    | text denotes => exact Text.readNat?_eq_some_iff.2 ⟨denotes, within⟩

end Document

end Screenplay
