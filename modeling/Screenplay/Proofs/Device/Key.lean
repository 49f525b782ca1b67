import Screenplay.Device.Key
import Screenplay.Proofs.Text.Integer

/-!
# What texts mean as keys

A text that denotes an integer is a code, which has to fit 32 bits without a sign.  Every
other text has to be the name of a key.

This is so for all texts but the numerals of integers that do not fit 64 bits.  These are
taken for names, and are refused for another reason than other integers that are no codes.
-/

namespace Screenplay.Key

/-- What a text without padding comes to as a key. -/
inductive Meant (text : String) : Except RunError Key → Prop where
  | code {number : Int} (denotes : Text.DenotesInteger text number) (code : UInt32)
      (fits : (code.toNat : Int) = number) : Meant text (.ok (.code code))
  | noCode {number : Int} (denotes : Text.DenotesInteger text number)
      (unfit : number < 0 ∨ UInt32.size ≤ number) :
      Meant text (.error (.invalidValue ("key code " ++ text ++ " is negative or out of range")))
  | named (key : Key) (isNamed : key ∈ named) (name : key.name = text) : Meant text (.ok key)
  | unknown (noInteger : ∀ number, ¬ Text.DenotesInteger text number)
      (unnamed : ∀ key ∈ named, key.name ≠ text) :
      Meant text (.error (.unsupportedOperation ("key " ++ text ++ " is not supported")))

/-- A text that denotes an integer denotes one that fits 64 bits. -/
def FitsWord (text : String) : Prop :=
  ∀ number, Text.DenotesInteger text number →
    Int64.minValue.toInt ≤ number ∧ number ≤ Int64.maxValue.toInt

variable {text : String} {number : Int} {outcome : Except RunError Key}

/-- Every text comes to something. -/
theorem exists_meant (text : String) : ∃ outcome, Meant text outcome := by
  by_cases integer : ∃ number, Text.DenotesInteger text number
  · rcases integer with ⟨number, denotes⟩
    by_cases unfit : number < 0 ∨ UInt32.size ≤ number
    · exact ⟨_, .noCode denotes unfit⟩
    · rw [not_or, Int.not_lt, Int.not_le] at unfit
      have fits : number.toNat < UInt32.size := by omega
      refine ⟨_, .code denotes (UInt32.ofNat number.toNat) ?_⟩
      rw [UInt32.toNat_ofNat_of_lt' fits]
      exact Int.toNat_of_nonneg unfit.1
  · by_cases isNamed : ∃ key ∈ named, key.name = text
    · rcases isNamed with ⟨key, isNamed, name⟩
      exact ⟨_, .named key isNamed name⟩
    · refine ⟨_, .unknown ?_ ?_⟩
      · exact fun number denotes => integer ⟨number, denotes⟩
      · exact fun key member name => isNamed ⟨key, member, name⟩

/-! ## Reading -/

/-- The numeral of an integer that fits 64 bits is read as a code. -/
theorem ofText_of_denotes (denotes : Text.DenotesInteger (Text.trim text) number)
    (within : Int64.minValue.toInt ≤ number ∧ number ≤ Int64.maxValue.toInt) :
    ofText text =
      if 0 ≤ number ∧ number < UInt32.size then .ok (.code (UInt32.ofNat number.toNat))
      else .error (.invalidValue
        ("key code " ++ Text.trim text ++ " is negative or out of range")) := by
  have read := Text.readInt?_eq_some_iff.2 ⟨denotes, within⟩
  simp only [ofText, read]

/-- The text is not read as an integer. -/
def Unread (text : String) : Prop :=
  Text.readInt? Int64.minValue.toInt Int64.maxValue.toInt text = none

/-- What is not read as an integer is taken for a name. -/
theorem ofText_of_unread (unread : Unread (Text.trim text)) {key : Key}
    (found : named.find? (·.name == Text.trim text) = some key) : ofText text = .ok key := by
  rw [Unread] at unread
  simp only [ofText, unread, found]

theorem ofText_of_unread_of_unnamed (unread : Unread (Text.trim text))
    (missing : named.find? (·.name == Text.trim text) = none) :
    ofText text = .error
      (.unsupportedOperation ("key " ++ Text.trim text ++ " is not supported")) := by
  rw [Unread] at unread
  simp only [ofText, unread, missing]

theorem find?_named_eq_none (unnamed : ∀ key ∈ named, key.name ≠ text) :
    named.find? (·.name == text) = none := by
  rw [List.find?_eq_none]
  intro key isNamed
  simpa using unnamed key isNamed

/-- No name of a key is a numeral. -/
theorem unread_name {key : Key} (isNamed : key ∈ named) : Unread key.name := by
  revert isNamed key
  rw [named]
  simp only [Unread]
  decide

theorem find?_name_eq_self {key : Key} (isNamed : key ∈ named) :
    named.find? (·.name == key.name) = some key := by
  revert isNamed key
  rw [named]
  decide

theorem unread_of_not_denotes (noInteger : ∀ number, ¬ Text.DenotesInteger text number) :
    Unread text := by
  rw [Unread, Option.eq_none_iff_forall_ne_some]
  intro number read
  exact noInteger number (Text.readInt?_eq_some_iff.1 read).1

theorem ofText_of_meant (fits : FitsWord (Text.trim text))
    (meant : Meant (Text.trim text) outcome) : ofText text = outcome := by
  generalize isTrimmed : Text.trim text = trimmed at meant fits
  cases meant with
  | code denotes code same =>
      have small := code.toNat_lt_size
      have within := fits _ denotes
      rw [← isTrimmed] at denotes
      rw [ofText_of_denotes denotes within, if_pos (by omega), ← same, Int.toNat_natCast,
        UInt32.ofNat_toNat]
  | noCode denotes unfit =>
      have within := fits _ denotes
      rw [← isTrimmed] at denotes
      rw [ofText_of_denotes denotes within, if_neg (by omega), isTrimmed]
  | named key isNamed name =>
      subst name
      apply ofText_of_unread
      · rw [isTrimmed]
        exact unread_name isNamed
      · rw [isTrimmed]
        exact find?_name_eq_self isNamed
  | unknown noInteger unnamed =>
      subst isTrimmed
      apply ofText_of_unread_of_unnamed
      · exact unread_of_not_denotes noInteger
      · exact find?_named_eq_none unnamed

/-- A text is read as the key that it means, or refused for the reason that there is, unless
it denotes an integer that does not fit 64 bits. -/
theorem ofText_eq_iff_meant {text : String} (fits : FitsWord (Text.trim text))
    (outcome : Except RunError Key) :
    ofText text = outcome ↔ Meant (Text.trim text) outcome := by
  constructor
  · intro read
    obtain ⟨other, meant⟩ := exists_meant (Text.trim text)
    rwa [← read, ofText_of_meant fits meant]
  · intro meant
    exact ofText_of_meant fits meant

/-- The largest code, with a sign and padding. -/
theorem ofText_eq_iff_meant_largestCode :
    FitsWord (Text.trim " +4294967295\t") ∧
      ofText " +4294967295\t" = .ok (.code 4294967295) := by
  have read : Text.readInt? 0 4294967295 (Text.trim " +4294967295\t") = some 4294967295 := by
    decide
  have denotes := (Text.readInt?_eq_some_iff.1 read).1
  have fits : FitsWord (Text.trim " +4294967295\t") := by
    intro number denotesToo
    rw [denotesToo.unique denotes]
    decide
  exact ⟨fits, (ofText_eq_iff_meant fits _).2 (.code denotes 4294967295 (by decide))⟩

/-- A negative integer that does not fit 64 bits is no code, but it is not refused as an
integer: it is refused as the name of a key that there is not. -/
theorem ofText_takes_large_integer_for_name :
    Text.DenotesInteger (Text.trim "-9223372036854775809") (-9223372036854775809) ∧
      ofText "-9223372036854775809" =
        .error (.unsupportedOperation "key -9223372036854775809 is not supported") ∧
      ∀ description, ofText "-9223372036854775809" ≠ .error (.invalidValue description) := by
  have read : Text.readInt? (-9223372036854775809) 0 (Text.trim "-9223372036854775809") =
      some (-9223372036854775809) := by decide
  have unsupported : ofText "-9223372036854775809" =
      .error (.unsupportedOperation "key -9223372036854775809 is not supported") := rfl
  refine ⟨(Text.readInt?_eq_some_iff.1 read).1, unsupported, ?_⟩
  intro description invalid
  rw [unsupported] at invalid
  cases invalid

end Screenplay.Key
