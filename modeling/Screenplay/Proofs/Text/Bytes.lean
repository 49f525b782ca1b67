import Mathlib.Data.List.Lex
import Mathlib.Tactic.SplitIfs

/-!
# Texts by their bytes

Texts are compared by code points.  This is the order of their bytes in UTF-8: of two
characters the smaller one has the smaller byte where their bytes first differ, and the
bytes of none are the first ones of another.
-/

namespace Screenplay.Text

/-- The bytes of a text in UTF-8. -/
def bytes (text : String) : List UInt8 :=
  text.toUTF8.data.toList

theorem bytes_eq_flatMap (text : String) :
    bytes text = text.toList.flatMap String.utf8EncodeChar := by
  rw [bytes, String.toUTF8, ← String.utf8Encode_toList, List.utf8Encode, List.data_toByteArray]

/-- The first of the digits in which two code points differ decides which is smaller. -/
theorem lt_digits {low high : Nat} (less : low < high) (bounded : high < 0x110000) :
    low / 262144 % 8 < high / 262144 % 8 ∨ low / 262144 % 8 = high / 262144 % 8 ∧
      (low / 4096 % 64 < high / 4096 % 64 ∨ low / 4096 % 64 = high / 4096 % 64 ∧
        (low / 64 % 64 < high / 64 % 64 ∨ low / 64 % 64 = high / 64 % 64 ∧
          low % 64 < high % 64)) := by
  have lowTop : low / 262144 % 8 = low / 262144 := by omega
  have highTop : high / 262144 % 8 = high / 262144 := by omega
  rw [lowTop, highTop]
  omega

/-- A digit fits a byte together with its mark. -/
theorem digit_mod_byte {value base mark : Nat} (positive : 0 < base)
    (fits : mark + base ≤ 256) : (value % base + mark) % 256 = value % base + mark := by
  have small := Nat.mod_lt value positive
  exact Nat.mod_eq_of_lt (by omega)

/-- What follows two characters that differ has no say in the order. -/
theorem utf8EncodeChar_append_lt {first second : Char} (less : first < second)
    (rest other : List UInt8) :
    String.utf8EncodeChar first ++ rest < String.utf8EncodeChar second ++ other := by
  have smaller : first.val.toNat < second.val.toNat := less
  have bounded : second.val.toNat < 0x110000 := by
    rcases second.valid with low | ⟨-, high⟩
    · exact Nat.lt_trans low (by decide)
    · exact high
  have digits := lt_digits smaller bounded
  -- Either character has one to four bytes.  If the numbers differ, so do the first bytes.
  simp only [String.utf8EncodeChar]
  split_ifs <;>
    simp only [List.cons_append, List.nil_append, List.cons_lt_cons_iff, UInt8.lt_iff_toNat_lt,
      ← UInt8.toNat_inj, UInt8.toNat_ofNat', Nat.reducePow,
      digit_mod_byte (show 0 < 8 by decide) (show 240 + 8 ≤ 256 by decide),
      digit_mod_byte (show 0 < 64 by decide) (show 128 + 64 ≤ 256 by decide)] <;>
    omega

theorem flatMap_utf8EncodeChar_lt {left right : List Char} (less : left < right) :
    left.flatMap String.utf8EncodeChar < right.flatMap String.utf8EncodeChar := by
  induction less with
  | @nil head tail =>
      have some : String.utf8EncodeChar head ≠ [] := by
        rw [← List.length_pos_iff, String.length_utf8EncodeChar]
        exact head.utf8Size_pos
      obtain ⟨byte, more, isBytes⟩ := List.exists_cons_of_ne_nil some
      rw [List.flatMap_nil, List.flatMap_cons, isBytes]
      exact .nil
  | cons less ih =>
      rw [List.flatMap_cons, List.flatMap_cons]
      exact List.append_left_lt ih
  | rel less =>
      rw [List.flatMap_cons, List.flatMap_cons]
      exact utf8EncodeChar_append_lt less _ _

/-- Texts are in the order of their bytes. -/
theorem lt_iff_bytes_lt {left right : String} : left < right ↔ bytes left < bytes right := by
  have forward {left right : String} (less : left < right) : bytes left < bytes right := by
    rw [bytes_eq_flatMap, bytes_eq_flatMap]
    exact flatMap_utf8EncodeChar_lt less
  refine ⟨forward, fun less => Decidable.byContradiction fun notLess => ?_⟩
  by_cases greater : right < left
  · exact List.lt_asymm less (forward greater)
  · rw [String.le_antisymm (String.not_lt.1 greater) (String.not_lt.1 notLess)] at less
    exact List.lt_irrefl _ less

end Screenplay.Text
