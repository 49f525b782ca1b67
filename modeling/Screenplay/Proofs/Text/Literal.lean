import Mathlib.Data.List.TakeWhile
import Screenplay.Json.Number
import Screenplay.Proofs.Text.Integer

/-!
# Numbers as a document spells them

A number of a document is held as a natural number exactly when its spelling is a numeral
of one that fits 64 bits.  A minus sign, a fraction, an exponent or too many digits make it
another number: minus zero, for instance, is a double.
-/

namespace Screenplay.Json

variable {significand value : Nat} {digits word : List Char} {number : Nat}

/-! ## Digits that fit -/

theorem digitValue_getD_of_isDigit {digit : Char} (isDigit : digit.isDigit = true) :
    (Text.digitValue? digit).getD 0 = digit.toNat - '0'.toNat := by
  rw [Text.digitValue?_eq_some_iff.2 ⟨isDigit, rfl⟩, Option.getD_some]

/-- More digits do not make a number smaller. -/
theorem le_ofDigitChars (significand : Nat) (digits : List Char) :
    significand ≤ Nat.ofDigitChars 10 digits significand := by
  induction digits generalizing significand with
  | nil => rw [Nat.ofDigitChars_nil]
  | cons digit rest ih =>
      rw [Nat.ofDigitChars_cons]
      have extended := ih (10 * significand + (digit.toNat - '0'.toNat))
      omega

/-- All digits are absorbed exactly when their number stays within its limit. -/
theorem Number.absorb_eq_iff (each : ∀ digit ∈ digits, digit.isDigit)
    (within : significand ≤ Number.naturalLimit) :
    Number.absorb significand digits = (value, 0) ↔
      Nat.ofDigitChars 10 digits significand = value ∧ value ≤ Number.naturalLimit := by
  induction digits generalizing significand with
  | nil =>
      rw [Number.absorb, Nat.ofDigitChars_nil, Prod.mk.injEq]
      constructor
      · intro holds
        exact ⟨holds.1, holds.1 ▸ within⟩
      · intro holds
        exact ⟨holds.1, rfl⟩
  | cons digit rest ih =>
      rw [List.forall_mem_cons] at each
      simp only [Number.absorb, digitValue_getD_of_isDigit each.1, Nat.ofDigitChars_cons]
      split
      next extended => exact ih each.2 extended
      next exceeds =>
        have grows := le_ofDigitChars (10 * significand + (digit.toNat - '0'.toNat)) rest
        constructor
        · intro impossible
          cases impossible
        · intro holds
          rcases holds with ⟨rfl, bounded⟩
          exact (exceeds (Nat.le_trans grows bounded)).elim

/-! ## Words of digits -/

namespace Spelling

variable {spelling : Spelling} {negative : Bool} {unsigned : List Char}

theorem readExponent?_eq_some_none_iff : readExponent? word = some none ↔ word = [] := by
  cases word with
  | nil => simp [readExponent?]
  | cons mark rest =>
      simp only [readExponent?]
      split <;> simp

/-- What is spelled after the sign of a number: digits, and then a fraction, or else an
exponent or nothing. -/
structure Parts (spelling : Spelling) (unsigned : List Char) : Prop where
  whole : spelling.whole = unsigned.takeWhile Char.isDigit
  nonempty : spelling.whole ≠ []
  pointed : spelling.fraction ≠ none → unsigned.dropWhile Char.isDigit ≠ []
  exponent : spelling.fraction = none →
    readExponent? (unsigned.dropWhile Char.isDigit) = some spelling.exponent

theorem parts_of_ofUnsigned? (read : ofUnsigned? negative unsigned = some spelling) :
    spelling.negative = negative ∧ Parts spelling unsigned := by
  simp only [ofUnsigned?, Option.bind_eq_bind] at read
  split at read
  · cases read
  next nonempty =>
    rw [Bool.or_eq_true, not_or, List.isEmpty_iff] at nonempty
    split at read
    next afterPoint pointed =>
      split at read
      · cases read
      · rcases Option.bind_eq_some_iff.1 read with ⟨exponent, -, same⟩
        cases same
        exact ⟨rfl, rfl, nonempty.1, fun _ => by simp [pointed], nofun⟩
    next =>
      rcases Option.bind_eq_some_iff.1 read with ⟨exponent, isExponent, same⟩
      cases same
      exact ⟨rfl, rfl, nonempty.1, fun absent => (absent rfl).elim, fun _ => isExponent⟩

/-- A word is a sign, if there is one, and what is spelled after it. -/
theorem exists_parts (read : ofWord? word = some spelling) :
    ∃ unsigned, Parts spelling unsigned ∧
      word = if spelling.negative then '-' :: unsigned else unsigned := by
  rw [ofWord?.eq_def] at read
  split at read
  next unsigned =>
    rcases parts_of_ofUnsigned? read with ⟨signed, parts⟩
    exact ⟨unsigned, parts, by rw [signed, if_pos rfl]⟩
  next =>
    rcases parts_of_ofUnsigned? read with ⟨noSign, parts⟩
    exact ⟨word, parts, by rw [noSign, if_neg Bool.false_ne_true]⟩

theorem Parts.each (parts : Parts spelling unsigned) :
    ∀ digit ∈ spelling.whole, digit.isDigit := by
  intro digit among
  rw [parts.whole] at among
  exact List.mem_takeWhile_imp among

/-- A word with neither sign nor fraction nor exponent consists of digits. -/
theorem Parts.whole_eq (parts : Parts spelling unsigned)
    (noFraction : spelling.fraction = none) (noExponent : spelling.exponent = none) :
    spelling.whole = unsigned := by
  have nothing := parts.exponent noFraction
  rw [noExponent, readExponent?_eq_some_none_iff] at nothing
  have split := List.takeWhile_append_dropWhile (p := Char.isDigit) (l := unsigned)
  rwa [nothing, List.append_nil, ← parts.whole] at split

/-- A word of digits has no fraction and no exponent. -/
theorem Parts.eq_of_digits (parts : Parts spelling unsigned)
    (each : ∀ digit ∈ unsigned, digit.isDigit) :
    spelling = ⟨spelling.negative, unsigned, none, none⟩ := by
  have nothing : unsigned.dropWhile Char.isDigit = [] := List.dropWhile_eq_nil_iff.2 each
  have noFraction : spelling.fraction = none :=
    Classical.byContradiction fun pointed => parts.pointed pointed nothing
  have noExponent := parts.exponent noFraction
  rw [nothing, readExponent?_eq_some_none_iff.2 rfl, Option.some.injEq] at noExponent
  cases spelling with
  | mk sign whole fraction exponent =>
      cases noFraction
      cases noExponent
      rw [Spelling.mk.injEq]
      exact ⟨rfl, parts.whole_eq rfl rfl, rfl, rfl⟩

end Spelling

/-! ## Natural numbers -/

theorem Number.ofInteger_eq_natural_iff {negative : Bool} {magnitude : Nat} {value : UInt64} :
    Number.ofInteger negative magnitude = .natural value ↔
      negative = false ∧ UInt64.ofNat magnitude = value := by
  cases negative with
  | false => simp [Number.ofInteger]
  | true =>
      simp only [Number.ofInteger, Bool.not_true, Bool.false_eq_true, if_false]
      split <;> simp

/-- Only digits that fit are held as a natural number. -/
theorem Number.ofSpelling?_eq_natural_iff {spelling : Spelling} {value : UInt64}
    (each : ∀ digit ∈ spelling.whole, digit.isDigit) :
    Number.ofSpelling? spelling = some (.natural value) ↔
      spelling.negative = false ∧ spelling.fraction = none ∧ spelling.exponent = none ∧
        Nat.ofDigitChars 10 spelling.whole 0 = value.toNat := by
  have start : 0 ≤ Number.naturalLimit := Nat.zero_le _
  have bounded : value.toNat ≤ Number.naturalLimit := Nat.le_pred_of_lt value.toNat_lt_size
  rcases absorbed : Number.absorb 0 spelling.whole with ⟨whole, unread⟩
  simp only [Number.ofSpelling?, absorbed]
  split
  next plain =>
    simp only [Bool.and_eq_true, Option.isNone_iff_eq_none, beq_iff_eq] at plain
    rcases plain with ⟨⟨noFraction, noExponent⟩, rfl⟩
    rcases (Number.absorb_eq_iff each start).1 absorbed with ⟨rfl, within⟩
    have fits := UInt64.toNat_ofNat_of_lt' (Nat.lt_of_le_pred (by decide) within)
    rw [Option.some.injEq, Number.ofInteger_eq_natural_iff, ← UInt64.toNat_inj, fits]
    simp [noFraction, noExponent]
  next complex =>
    constructor
    · intro impossible
      rw [Option.map_eq_some_iff] at impossible
      rcases impossible with ⟨_, _, same⟩
      cases same
    · intro holds
      rcases holds with ⟨-, noFraction, noExponent, total⟩
      have all := (Number.absorb_eq_iff each start).2 ⟨total, bounded⟩
      rw [absorbed, Prod.mk.injEq] at all
      simp [noFraction, noExponent, all.2] at complex

/-- A number is held as a natural number exactly when it is written as a numeral of it. -/
theorem Number.held_natural_iff {spelling : Spelling} {value : UInt64}
    (read : Spelling.ofWord? word = some spelling) :
    Number.ofSpelling? spelling = some (.natural value) ↔
      Text.Denotes (String.ofList word) value.toNat := by
  rcases Spelling.exists_parts read with ⟨unsigned, parts, sign⟩
  rw [Number.ofSpelling?_eq_natural_iff parts.each]
  constructor
  · intro holds
    rcases holds with ⟨noSign, noFraction, noExponent, total⟩
    rw [noSign, if_neg Bool.false_ne_true, ← parts.whole_eq noFraction noExponent] at sign
    refine ⟨spelling.whole, parts.nonempty, parts.each, .inl ?_, total⟩
    rw [String.toList_ofList, sign]
  · intro denotes
    cases signed : spelling.negative with
    | true =>
        rw [signed, if_pos rfl] at sign
        have minus : (String.ofList word).toList = '-' :: unsigned := by
          rw [String.toList_ofList, sign]
        exact (Text.not_denotes_of_minus minus _ denotes).elim
    | false =>
        rw [signed, if_neg Bool.false_ne_true] at sign
        subst sign
        have noPlus : ∀ digits, (String.ofList word).toList ≠ '+' :: digits := by
          intro digits plus
          have whole := parts.whole
          rw [← String.toList_ofList (l := word), plus,
            List.takeWhile_cons_of_neg (by decide)] at whole
          exact parts.nonempty whole
        rw [Text.denotes_iff_of_unsigned noPlus, String.toList_ofList,
          Text.readDigits?_eq_some_iff] at denotes
        rcases denotes with ⟨-, each, total⟩
        rw [parts.eq_of_digits each]
        exact ⟨rfl, rfl, rfl, total⟩

end Screenplay.Json
