import Mathlib.Data.List.Forall2
import Mathlib.Tactic.Common
import Mathlib.Tactic.SplitIfs
import Screenplay.Pattern.Automaton
import Screenplay.Proofs.Pattern.Codes
import Screenplay.Proofs.Text.Bytes

/-!
# The bytes that an automaton reads

The automaton for a class is reckoned from sequences of stretches of bytes.  They let through
exactly the encodings of the characters of the class.
-/

namespace Screenplay.Pattern.Automaton

/-- Each number lies in its stretch. -/
def Covers (stretches : List Stretch) (numbers : List Nat) : Prop :=
  List.Forall₂ (fun stretch number => stretch.1 ≤ number ∧ number ≤ stretch.2) stretches numbers

/-! ## Digits -/

theorem capacity_succ (places : Nat) : capacity (places + 1) = capacity places * 64 :=
  rfl

theorem capacity_pos (places : Nat) : 0 < capacity places :=
  Nat.pow_pos (by decide)

/-- The digits of a number to the base 64, with a leading one that has no bound. -/
def digits : (places number : Nat) → List Nat
  | 0, number => [number]
  | places + 1, number =>
      let unit := capacity (places + 1)
      number / unit :: digits places (number % unit)

@[simp] theorem length_digits (places number : Nat) : (digits places number).length = places + 1 := by
  induction places generalizing number with
  | zero => rfl
  | succ places ih => rw [digits, List.length_cons, ih]

theorem covers_cons_iff {stretch : Stretch} {stretches : List Stretch} {number : Nat}
    {numbers : List Nat} :
    Covers (stretch :: stretches) (number :: numbers) ↔
      (stretch.1 ≤ number ∧ number ≤ stretch.2) ∧ Covers stretches numbers :=
  List.forall₂_cons

/-- All digits after the leading one are covered by whole stretches. -/
theorem covers_replicate (places number : Nat) (bounded : number < capacity (places + 1)) :
    Covers (List.replicate (places + 1) (0, 63)) (digits places number) := by
  induction places generalizing number with
  | zero => exact .cons ⟨Nat.zero_le _, Nat.le_of_lt_succ bounded⟩ .nil
  | succ places ih =>
      have positive := capacity_pos (places + 1)
      rw [List.replicate_succ, digits, covers_cons_iff]
      refine ⟨⟨Nat.zero_le _, Nat.le_of_lt_succ ?_⟩, ih _ (Nat.mod_lt _ positive)⟩
      rwa [Nat.div_lt_iff_lt_mul positive, Nat.mul_comm, ← capacity_succ]

theorem exists_covers_map_cons_iff {stretch : Stretch} {sequences : List (List Stretch)}
    {number : Nat} {numbers : List Nat} :
    (∃ sequence ∈ sequences.map (stretch :: ·), Covers sequence (number :: numbers)) ↔
      (stretch.1 ≤ number ∧ number ≤ stretch.2) ∧
        ∃ sequence ∈ sequences, Covers sequence numbers := by
  simp only [List.mem_map, exists_exists_and_eq_and, covers_cons_iff]
  constructor
  · rintro ⟨sequence, member, within, covers⟩
    exact ⟨within, sequence, member, covers⟩
  · rintro ⟨within, sequence, member, covers⟩
    exact ⟨sequence, member, within, covers⟩

/-- Numbers are compared by their quotients first. -/
theorem le_iff_div_mod (left right unit : Nat) :
    left ≤ right ↔
      left / unit < right / unit ∨ left / unit = right / unit ∧ left % unit ≤ right % unit := by
  rcases Nat.lt_trichotomy (left / unit) (right / unit) with less | same | greater
  · have := Nat.lt_of_div_lt_div less
    omega
  · have leftParts := Nat.div_add_mod left unit
    have rightParts := Nat.div_add_mod right unit
    rw [same] at leftParts ⊢
    omega
  · have := Nat.lt_of_div_lt_div greater
    omega

/-- The sequences that a range of numbers is cut into cover the digits of its numbers, and of no
others. -/
theorem exists_covers_digitStretches_iff {places first last number : Nat} (ordered : first ≤ last) :
    (∃ sequence ∈ digitStretches places first last, Covers sequence (digits places number)) ↔
      first ≤ number ∧ number ≤ last := by
  induction places generalizing first last number with
  | zero => simp [digitStretches, digits, Covers]
  | succ places ih =>
      have positive := capacity_pos (places + 1)
      have whole := covers_replicate places (number % capacity (places + 1)) (Nat.mod_lt _ positive)
      rw [digits]
      simp only [digitStretches]
      generalize capacity (places + 1) = unit at positive whole ⊢
      have small (value : Nat) := Nat.mod_lt value positive
      rw [le_iff_div_mod first last unit] at ordered
      rw [le_iff_div_mod first number unit, le_iff_div_mod number last unit]
      by_cases same : first / unit = last / unit
      · rw [if_pos same, exists_covers_map_cons_iff, ih (by omega)]
        omega
      · have before := @ih (first % unit) (unit - 1) (number % unit)
          (Nat.le_sub_one_of_lt (small first))
        have after := @ih 0 (last % unit) (number % unit) (Nat.zero_le _)
        rw [if_neg same]
        simp only [List.mem_append, List.mem_ite_nil_left, List.mem_ite_nil_right,
          List.mem_singleton, or_and_right, exists_or, and_assoc, exists_and_left,
          exists_eq_left, exists_covers_map_cons_iff, covers_cons_iff, before, after,
          whole, and_true]
        -- What is left compares the quotients and the remainders.
        generalize first / unit = low at ordered same ⊢
        generalize last / unit = high at ordered same ⊢
        generalize number / unit = lead
        have := small number
        have := small first
        have := small last
        split_ifs <;> omega

theorem length_of_mem_digitStretches {places first last : Nat} {sequence : List Stretch}
    (member : sequence ∈ digitStretches places first last) : sequence.length = places + 1 := by
  induction places generalizing first last sequence with
  | zero => rw [List.mem_singleton.1 member, List.length_singleton]
  | succ places ih =>
      have extended {first last : Nat} {stretch : Stretch} {sequence : List Stretch}
          (member : sequence ∈ (digitStretches places first last).map (stretch :: ·)) :
          sequence.length = places + 1 + 1 := by
        rcases List.mem_map.1 member with ⟨inner, innerMember, rfl⟩
        rw [List.length_cons, ih innerMember]
      simp only [digitStretches] at member
      split at member
      · exact extended member
      · rw [List.mem_append, List.mem_append, List.mem_ite_nil_left, List.mem_ite_nil_left,
          List.mem_ite_nil_right, List.mem_singleton] at member
        rcases member with (⟨-, before⟩ | ⟨-, rfl⟩) | ⟨-, after⟩
        · exact extended before
        · rw [List.length_cons, List.length_replicate]
        · exact extended after

/-! ## Bytes -/

/-- The bytes for digits. -/
def marked (lead : Nat) : List Nat → List Nat
  | [] => []
  | digit :: digits => (lead + digit) :: digits.map (0x80 + ·)

@[simp] theorem length_marked (lead : Nat) (digits : List Nat) :
    (marked lead digits).length = digits.length := by
  cases digits <;> simp [marked]

@[simp] theorem length_toBytes (lead : Nat) (sequence : List Stretch) :
    (toBytes lead sequence).length = sequence.length := by
  cases sequence <;> simp [toBytes]

theorem covers_marked_iff {lead : Nat} {sequence : List Stretch} {digits : List Nat} :
    Covers (toBytes lead sequence) (marked lead digits) ↔ Covers sequence digits := by
  cases sequence <;> cases digits <;>
    simp [toBytes, marked, Covers]

/-- The bytes of the encoding of a character. -/
def bytes (character : Char) : List Nat :=
  (String.utf8EncodeChar character).map UInt8.toNat

theorem bytes_eq_marked {encoding : Encoding} (listed : encoding ∈ encodings) {character : Char}
    (above : encoding.first ≤ character.toNat) (below : character.toNat ≤ encoding.last) :
    bytes character = marked encoding.lead (digits encoding.places character.toNat) := by
  simp only [encodings, List.mem_cons, List.not_mem_nil, or_false] at listed
  have bounded : character.val.toNat < 0x110000 := by
    have := character.valid
    omega
  have one : capacity 1 = 64 := rfl
  have two : capacity 2 = 4096 := rfl
  have three : capacity 3 = 262144 := rfl
  rcases listed with rfl | rfl | rfl | rfl <;>
    simp only [Char.toNat] at above below <;>
    simp only [bytes, String.utf8EncodeChar, marked, digits, Char.toNat, Nat.reduceAdd, one, two,
      three]
  · rw [if_pos (by omega)]
    simp only [List.map_cons, List.map_nil, UInt8.toNat_ofNat', Nat.reducePow, List.cons.injEq,
      and_true]
    omega
  · rw [if_neg (by omega), if_pos (by omega)]
    simp only [List.map_cons, List.map_nil, UInt8.toNat_ofNat', Nat.reducePow, List.cons.injEq,
      and_true]
    omega
  · rw [if_neg (by omega), if_neg (by omega), if_pos (by omega)]
    simp only [List.map_cons, List.map_nil, UInt8.toNat_ofNat', Nat.reducePow, List.cons.injEq,
      and_true]
    omega
  · rw [if_neg (by omega), if_neg (by omega), if_neg (by omega)]
    simp only [List.map_cons, List.map_nil, UInt8.toNat_ofNat', Nat.reducePow, List.cons.injEq,
      and_true]
    omega

/-- Every character has one of the encodings. -/
theorem exists_encoding (character : Char) :
    ∃ encoding ∈ encodings, encoding.first ≤ character.toNat ∧
      character.toNat ≤ encoding.last := by
  have := character.valid
  simp only [encodings, List.mem_cons, List.not_mem_nil, or_false, exists_eq_or_imp,
    exists_eq_left, Char.toNat]
  omega

/-- Encodings with the same number of bytes are the same. -/
theorem eq_of_places_eq {encoding other : Encoding} (listed : encoding ∈ encodings)
    (otherListed : other ∈ encodings) (same : encoding.places = other.places) :
    encoding = other := by
  simp only [encodings, List.mem_cons, List.not_mem_nil, or_false] at listed otherListed
  rcases listed with rfl | rfl | rfl | rfl <;> rcases otherListed with rfl | rfl | rfl | rfl <;>
    first | rfl | cases same

/-- The sequences for a run let through the encodings of its characters. -/
theorem exists_covers_byteStretches_iff (run : Stretch) (character : Char) :
    (∃ sequence ∈ byteStretches run, Covers sequence (bytes character)) ↔
      run.1 ≤ character.toNat ∧ character.toNat ≤ run.2 := by
  rcases exists_encoding character with ⟨encoding, listed, above, below⟩
  rw [bytes_eq_marked listed above below]
  constructor
  · rintro ⟨sequence, member, covers⟩
    simp only [byteStretches, List.mem_flatMap] at member
    rcases member with ⟨other, otherListed, member⟩
    split at member
    · rename_i ordered
      rcases List.mem_map.1 member with ⟨stretches, digitMember, rfl⟩
      -- The number of bytes tells the encodings apart.
      have sameLength := covers.length_eq
      rw [length_toBytes, length_marked, length_of_mem_digitStretches digitMember, length_digits]
        at sameLength
      cases eq_of_places_eq otherListed listed (Nat.succ.inj sameLength)
      have covered := (exists_covers_digitStretches_iff ordered).1
        ⟨stretches, digitMember, covers_marked_iff.1 covers⟩
      exact ⟨(Nat.max_le.1 covered.1).1, (Nat.le_min.1 covered.2).1⟩
    · cases member
  · intro within
    have ordered : max run.1 encoding.first ≤ min run.2 encoding.last := by
      refine Nat.max_le.2 ⟨Nat.le_min.2 ⟨?_, ?_⟩, Nat.le_min.2 ⟨?_, ?_⟩⟩ <;> omega
    rcases (exists_covers_digitStretches_iff ordered).2 ⟨Nat.max_le.2 ⟨within.1, above⟩,
      Nat.le_min.2 ⟨within.2, below⟩⟩ with ⟨sequence, member, covers⟩
    refine ⟨toBytes encoding.lead sequence, ?_, covers_marked_iff.2 covers⟩
    rw [byteStretches, List.mem_flatMap]
    refine ⟨encoding, listed, ?_⟩
    rw [if_pos ordered]
    exact List.mem_map_of_mem member

end Screenplay.Pattern.Automaton

namespace Screenplay.Pattern.CharClass

open Automaton

theorem increasing_codes (characters : CharClass) : characters.codes.edges.Pairwise (· < ·) := by
  rw [codes]
  cases characters.single? with
  | none => exact Unicode.CodeSet.increasing_edges_sweep
  | some character => exact Unicode.CodeSet.increasing_edges_sweep

/-- The sequences of bytes that the size of a class is reckoned from are those of its
characters. -/
theorem exists_covers_iff (characters : CharClass) (character : Char) :
    (∃ sequence ∈ characters.codes.runs.flatMap byteStretches,
        Covers sequence (bytes character)) ↔
      characters.contains character = true := by
  rw [← contains_codes, ← Unicode.CodeSet.mem_runs_iff characters.increasing_codes]
  simp only [List.mem_flatMap, ← exists_covers_byteStretches_iff]
  constructor
  · rintro ⟨sequence, ⟨run, member, listed⟩, covers⟩
    exact ⟨run, member, sequence, listed, covers⟩
  · rintro ⟨run, member, sequence, listed, covers⟩
    exact ⟨sequence, ⟨run, member, listed⟩, covers⟩

end Screenplay.Pattern.CharClass
