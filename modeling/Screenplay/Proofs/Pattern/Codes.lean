import Mathlib.Tactic.Common
import Screenplay.Pattern.CharClass
import Screenplay.Proofs.Unicode.CodeSet

/-!
# Classes as sets of code points

The size of a pattern is reckoned from the code points of its classes.  These are found by
looking only where membership may change; that no change is overlooked is shown one kind
of class at a time.
-/

namespace Screenplay

namespace Unicode

/-! ## Characters that follow one another -/

variable {before after : Char}

theorem CodeSet.contains_eq_of_next {set : CodeSet} (next : after.toNat = before.toNat + 1)
    (steady : after.toNat ∉ set.edges) :
    set.contains after = set.contains before := by
  rw [edges, next] at steady
  rw [contains, contains, next, countUpTo_succ steady]

theorem Category.ofChar_eq_of_next (next : after.toNat = before.toNat + 1)
    (steady : after.toNat ∉ table.edges) : ofChar after = ofChar before := by
  -- The table is a variable here, so that nothing tries to compute it.
  unfold ofChar
  generalize table = all at *
  rw [Table.edges, next] at steady
  rw [next, countUpTo_succ steady]

namespace Property

theorem mem_foldr_merge {entry : Nat} {lists : List (List Nat)} :
    entry ∈ lists.foldr CodeSet.merge [] ↔ ∃ list ∈ lists, entry ∈ list := by
  induction lists with
  | nil => simp
  | cons list lists ih => simp [CodeSet.mem_merge, ih]

theorem holds_eq_of_next {property : Property} (next : after.toNat = before.toNat + 1)
    (steady : after.toNat ∉ property.edges) : property.holds after = property.holds before := by
  cases property with
  | any => rfl
  | ascii =>
      simp only [edges, List.mem_singleton] at steady
      simp only [holds, decide_eq_decide]
      omega
  | categories members =>
      rw [edges] at steady
      rw [holds, holds, Category.ofChar_eq_of_next next steady]
  | table set => exact CodeSet.contains_eq_of_next next steady
  | anyOf sets =>
      rw [edges, mem_foldr_merge] at steady
      rw [holds, holds, Bool.eq_iff_iff, List.any_eq_true, List.any_eq_true]
      refine exists_congr fun set => and_congr_right fun member => ?_
      rw [CodeSet.contains_eq_of_next next fun edge =>
        steady ⟨_, List.mem_map_of_mem member, edge⟩]

theorem isDigit_eq_of_next (next : after.toNat = before.toNat + 1)
    (steady : after.toNat ∉ Pattern.CharClass.digit.edges) : isDigit after = isDigit before := by
  rw [Pattern.CharClass.edges, CodeSet.mem_merge, not_or] at steady
  rcases steady with ⟨ascii, starts⟩
  rw [isDigit, isDigit, Category.ofChar_eq_of_next next starts]
  simp only [List.mem_cons, List.not_mem_nil, or_false, not_or, Char.toNat] at ascii next ⊢
  by_cases low : after.val.toNat < 0x80
  · rw [if_pos low, if_pos (by omega), Bool.eq_iff_iff]
    simp only [Bool.and_eq_true, decide_eq_true_eq, Char.le_def, UInt32.le_iff_toNat_le,
      Char.reduceVal, UInt32.reduceToNat]
    omega
  · rw [if_neg low, if_neg (by omega)]

theorem isAlphanum_iff (character : Char) :
    character.isAlphanum = true ↔
      0x41 ≤ character.val.toNat ∧ character.val.toNat ≤ 0x5A ∨
        0x61 ≤ character.val.toNat ∧ character.val.toNat ≤ 0x7A ∨
          0x30 ≤ character.val.toNat ∧ character.val.toNat ≤ 0x39 := by
  change (decide (_ ∧ _) || (decide _ && decide _) || (decide _ && decide _)) = true ↔ _
  simp only [Bool.or_eq_true, Bool.and_eq_true, decide_eq_true_eq, or_assoc]
  rfl

theorem isWord_eq_of_next (next : after.toNat = before.toNat + 1)
    (steady : after.toNat ∉ Pattern.CharClass.word.edges) : isWord after = isWord before := by
  rw [Pattern.CharClass.edges, CodeSet.mem_merge, CodeSet.mem_merge, not_or, not_or] at steady
  rcases steady with ⟨own, letters, starts⟩
  rw [isWord, isWord, Category.ofChar_eq_of_next next starts,
    CodeSet.contains_eq_of_next next letters]
  simp only [List.mem_cons, List.not_mem_nil, or_false, not_or, Char.toNat] at own next ⊢
  by_cases low : after.val.toNat < 0x80
  · rw [if_pos low, if_pos (by omega), Bool.eq_iff_iff]
    simp only [Bool.or_eq_true, isAlphanum_iff, beq_iff_eq, ← Char.val_inj, ← UInt32.toNat_inj,
      UInt32.reduceToNat, Char.reduceVal]
    omega
  · rw [if_neg low, if_neg (by omega)]
    have joins : (after.val.toNat == 0x200C || after.val.toNat == 0x200D) =
        (before.val.toNat == 0x200C || before.val.toNat == 0x200D) := by
      rw [Bool.eq_iff_iff, Bool.or_eq_true, Bool.or_eq_true]
      simp only [beq_iff_eq]
      omega
    rw [Bool.or_assoc (alphabetic.contains before), joins, ← Bool.or_assoc]

end Property

/-! ## Variants -/

theorem FoldingRun.mem_codes_of_image? {run : FoldingRun} {code folded : Nat}
    (applied : run.image? code = some folded) : code ∈ run.codes ∧ folded ∈ run.codes := by
  simp only [image?, Option.ite_none_right_eq_some, Option.some.injEq] at applied
  rcases applied with ⟨⟨above, aligned, within⟩, rfl⟩
  have whole := Nat.mul_div_cancel' (Nat.dvd_of_mod_eq_zero aligned)
  simp only [codes, List.mem_flatMap, List.mem_range, List.mem_cons, List.not_mem_nil, or_false]
  exact ⟨⟨_, within, by omega⟩, ⟨_, within, by omega⟩⟩

theorem FoldingRun.image?_of_preimage? {run : FoldingRun} {code folded : Nat}
    (applied : run.preimage? folded = some code) : run.image? code = some folded := by
  simp only [preimage?, Option.ite_none_right_eq_some, Option.some.injEq] at applied
  rcases applied with ⟨⟨above, aligned, within⟩, rfl⟩
  simp only [image?, Nat.add_sub_cancel_left, Nat.le_add_right, aligned, within, and_self,
    if_true, Option.some.injEq]
  omega

namespace Folding

/-- A character that no run leads from or to is its only variant. -/
theorem variants_eq_singleton {character : Char}
    (apart : character.toNat ∉ runs.flatMap FoldingRun.codes) :
    variants character = [character] := by
  have noImage : key character = character.toNat := by
    have none : runs.findSome? (·.image? character.toNat) = none := by
      rw [List.findSome?_eq_none_iff]
      intro run member
      cases applied : run.image? character.toNat with
      | none => rfl
      | some folded =>
          have listed := (FoldingRun.mem_codes_of_image? applied).1
          exact (apart (List.mem_flatMap.2 ⟨run, member, listed⟩)).elim
    rw [key, foldCode, none, Option.getD_none]
  have noPreimage : runs.filterMap (·.preimage? character.toNat) = [] := by
    rw [List.filterMap_eq_nil_iff]
    intro run member
    cases applied : run.preimage? character.toNat with
    | none => rfl
    | some code =>
        have listed :=
          (FoldingRun.mem_codes_of_image? (FoldingRun.image?_of_preimage? applied)).2
        exact (apart (List.mem_flatMap.2 ⟨run, member, listed⟩)).elim
  simp [variants, noImage, noPreimage, sameUpToCase]

/-- Characters outside the families have no other variants. -/
theorem mem_families_or (character : Char) :
    (character, variants character) ∈ families.get ∨ variants character = [character] := by
  by_cases listed : character.toNat ∈ runs.flatMap FoldingRun.codes
  · left
    have entry := List.mem_map_of_mem
      (f := fun code => (Char.ofNat code, variants (Char.ofNat code))) listed
    rwa [Char.ofNat_toNat] at entry
  · exact .inr (variants_eq_singleton listed)

end Folding

end Unicode

namespace Pattern.CharClass

variable {before after : Char}

theorem isBlank_eq_of_next (next : after.toNat = before.toNat + 1)
    (steady : after.toNat ∉ blank.edges) : Text.isBlank after = Text.isBlank before := by
  simp only [edges, List.mem_cons, List.not_mem_nil, or_false, not_or, Char.toNat] at steady next
  rw [Bool.eq_iff_iff]
  simp only [Text.isBlank, Bool.or_eq_true, Bool.and_eq_true, decide_eq_true_eq, beq_iff_eq,
    UInt32.le_iff_toNat_le, ← UInt32.toNat_inj, UInt32.reduceToNat]
  omega

/-- A character that is not among the changed ones belongs to a class up to case if it belongs
to the class. -/
theorem contains_ignoringCase_of_steady {inner : CharClass} {character : Char}
    (steady : ∀ entry ∈ Unicode.Folding.families.get, entry.1 = character →
      entry.2.any inner.contains = inner.contains character) :
    (ignoringCase inner).contains character = inner.contains character := by
  rw [contains]
  rcases Unicode.Folding.mem_families_or character with listed | alone
  · exact steady _ listed rfl
  · simp [alone]

/-- A character that is no ASCII letter is its only variant in ASCII. -/
theorem asciiVariants_eq {character : Char}
    (upper : character.toNat ∉ List.range' 0x41 26) (lower : character.toNat ∉ List.range' 0x61 26) :
    asciiVariants character = [character, character] := by
  simp only [List.mem_range'_1, Char.toNat] at upper lower
  have lowered : character.toLower = character := by
    refine dif_neg ?_
    simp only [ge_iff_le, UInt32.le_iff_toNat_le, Char.reduceVal, UInt32.reduceToNat]
    omega
  have raised : character.toUpper = character := by
    refine dif_neg ?_
    simp only [UInt32.le_iff_toNat_le, Char.reduceVal, UInt32.reduceToNat]
    omega
  rw [asciiVariants, lowered, raised]

/-- Membership changes at edges only. -/
theorem contains_eq_of_next {characters : CharClass} (next : after.toNat = before.toNat + 1)
    (steady : after.toNat ∉ characters.edges) :
    characters.contains after = characters.contains before := by
  induction characters with
  | empty => rfl
  | span first last =>
      simp only [edges, List.mem_cons, List.not_mem_nil, or_false, not_or, Char.toNat] at steady next
      rw [Bool.eq_iff_iff]
      simp only [contains, Bool.and_eq_true, decide_eq_true_eq, Char.le_def,
        UInt32.le_iff_toNat_le]
      omega
  | named property => exact Unicode.Property.holds_eq_of_next next steady
  | digit => exact Unicode.Property.isDigit_eq_of_next next steady
  | blank => exact isBlank_eq_of_next next steady
  | word => exact Unicode.Property.isWord_eq_of_next next steady
  | complement inner ih => rw [contains, contains, ih steady]
  | union left right leftIh rightIh | intersection left right leftIh rightIh
  | difference left right leftIh rightIh | symmetricDifference left right leftIh rightIh =>
      rw [edges, Unicode.CodeSet.mem_merge, not_or] at steady
      rw [contains, contains, leftIh steady.1, rightIh steady.2]
  | ignoringCase inner ih =>
      simp only [edges, List.mem_append, List.mem_flatMap, List.mem_filter, not_or, not_exists,
        not_and, List.mem_cons, List.not_mem_nil, or_false, and_imp, bne_iff_ne, ne_eq]
        at steady
      rcases steady with ⟨unchanged, steady⟩
      rw [contains_ignoringCase_of_steady, contains_ignoringCase_of_steady, ih steady]
      · intro entry listed same
        by_contra changed
        exact (unchanged entry listed (same ▸ changed)).2 (same ▸ next)
      · intro entry listed same
        by_contra changed
        exact (unchanged entry listed (same ▸ changed)).1 (same ▸ rfl)
  | ignoringAsciiCase inner ih =>
      rw [edges, Unicode.CodeSet.mem_merge, not_or] at steady
      simp only [List.mem_append, List.mem_range'_1, not_or] at steady
      have afterOnly : asciiVariants after = [after, after] := by
        apply asciiVariants_eq <;> rw [List.mem_range'_1] <;> omega
      have beforeOnly : asciiVariants before = [before, before] := by
        apply asciiVariants_eq <;> rw [List.mem_range'_1] <;> omega
      rw [contains, contains, afterOnly, beforeOnly, List.any_cons, List.any_cons, ih steady.2]
      rfl

/-! ## The set of a class -/

theorem toNat_ofNat {code : Nat} (valid : code.isValidChar) : (Char.ofNat code).toNat = code := by
  rw [Char.ofNat, dif_pos valid]
  rfl

theorem containsCode_toNat (characters : CharClass) (character : Char) :
    characters.containsCode character.toNat = characters.contains character := by
  have valid : character.toNat.isValidChar := character.valid
  simp [containsCode, valid]

/-- Membership of code points changes at edges and at the bounds of what is a character. -/
theorem containsCode_eq_holdsBefore {characters : CharClass} {code : Nat}
    (bounds : code ∉ characterBounds) (steady : code ∉ characters.edges) :
    characters.containsCode code = Unicode.CodeSet.holdsBefore characters.containsCode code := by
  simp only [characterBounds, List.mem_cons, List.not_mem_nil, or_false, not_or] at bounds
  cases code with
  | zero => exact absurd rfl bounds.1
  | succ code =>
      have alike : (code + 1).isValidChar ↔ code.isValidChar := by
        simp only [Nat.isValidChar]
        omega
      rw [Unicode.CodeSet.holdsBefore, containsCode, containsCode, decide_eq_decide.2 alike]
      by_cases valid : code.isValidChar
      · have next : (Char.ofNat (code + 1)).toNat = (Char.ofNat code).toNat + 1 := by
          rw [toNat_ofNat valid, toNat_ofNat (alike.2 valid)]
        rw [← toNat_ofNat (alike.2 valid)] at steady
        rw [contains_eq_of_next next steady]
      · simp [valid]

theorem eq_of_single? {characters : CharClass} {expected : Char}
    (isSingle : characters.single? = some expected) :
    characters = ignoringCase (single expected) := by
  unfold single? at isSingle
  split at isSingle
  · rename_i first last
    by_cases one : first = last
    · rw [if_pos one, Option.some.injEq] at isSingle
      rw [single, ← isSingle, ← one]
    · rw [if_neg one] at isSingle
      cases isSingle
  · cases isSingle

/-- The set that the size of a pattern is reckoned from holds exactly the characters that the
class matches. -/
theorem contains_codes (characters : CharClass) (character : Char) :
    characters.codes.contains character = characters.contains character := by
  rw [codes]
  cases isSingle : characters.single? with
  | none =>
      refine (Unicode.CodeSet.contains_sweep (fun code apart => ?_) character).trans
        (containsCode_toNat characters character)
      rw [Unicode.CodeSet.mem_merge, not_or] at apart
      exact containsCode_eq_holdsBefore apart.1 apart.2
  | some expected =>
      refine (Unicode.CodeSet.contains_sweep_of_list _ character).trans ?_
      rw [eq_of_single? isSingle, contains_ignoringCase_single, Bool.eq_iff_iff,
        List.contains_iff_mem, List.mem_map, Unicode.Folding.sameUpToCase, Bool.beq_comm,
        ← Unicode.Folding.sameUpToCase, ← Unicode.Folding.mem_variants]
      constructor
      · intro listed
        rcases listed with ⟨variant, member, same⟩
        rwa [← Char.toNat_inj.1 same]
      · intro member
        exact ⟨character, member, rfl⟩

end Pattern.CharClass

end Screenplay
