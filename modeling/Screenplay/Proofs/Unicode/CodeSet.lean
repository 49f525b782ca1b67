import Mathlib.Algebra.Group.Nat.Defs
import Mathlib.Data.List.Basic
import Mathlib.Tactic.Common
import Screenplay.Unicode.CodeSet

/-!
# Sets of code points by their boundaries

The search in an increasing list of boundaries counts those that are not above a code
point, and a set that is swept from a test of membership has the characters that pass
the test.
-/

namespace Screenplay.Unicode

/-! ## Searching -/

/-- The search ends where the entries that are at most `value` end, wherever between its
bounds this is. -/
theorem countUpToWithin_eq {sorted : Array Nat} {value place : Nat}
    (splits : ∀ index < sorted.size, sorted.getD index 0 ≤ value ↔ index < place)
    {rounds low high : Nat} (above : low ≤ place) (below : place ≤ high)
    (bounded : high ≤ sorted.size) (near : high - low < 2 ^ rounds) :
    countUpToWithin sorted value rounds low high = place := by
  induction rounds generalizing low high with
  | zero =>
      rw [Nat.pow_zero] at near
      simp only [countUpToWithin]
      omega
  | succ rounds ih =>
      rw [Nat.pow_succ] at near
      simp only [countUpToWithin]
      split
      · rename_i apart
        split
        · rename_i atMost
          have left := (splits ((low + high) / 2) (by omega)).1 atMost
          exact ih (by omega) below bounded (by omega)
        · rename_i larger
          have right := mt (splits ((low + high) / 2) (by omega)).2 larger
          exact ih above (by omega) (by omega) (by omega)
      · omega

/-- In an increasing list the entries that are at most `value` come first. -/
theorem getElem_le_iff_lt_countP {entries : List Nat} (increasing : entries.Pairwise (· < ·))
    {value index : Nat} (within : index < entries.length) :
    entries[index] ≤ value ↔ index < entries.countP (· ≤ value) := by
  induction entries generalizing index with
  | nil => exact absurd within (Nat.not_lt_zero index)
  | cons entry entries ih =>
      rcases List.pairwise_cons.1 increasing with ⟨least, increasing⟩
      rw [List.countP_cons]
      by_cases atMost : entry ≤ value
      · rw [if_pos (decide_eq_true atMost)]
        cases index with
        | zero => simp [atMost]
        | succ index =>
            rw [List.getElem_cons_succ, ih increasing (Nat.lt_of_succ_lt_succ within)]
            omega
      · have none : entries.countP (· ≤ value) = 0 := by
          rw [List.countP_eq_zero]
          intro other member
          have := least other member
          simp only [decide_eq_true_eq]
          omega
        have larger : entry ≤ (entry :: entries)[index] := by
          cases index with
          | zero => exact Nat.le_refl _
          | succ index => exact Nat.le_of_lt (least _ (List.getElem_mem _))
        rw [none, if_neg (by simpa using atMost)]
        omega

/-- The search counts the entries that are at most `value`. -/
theorem countUpTo_eq_countP {entries : List Nat} (increasing : entries.Pairwise (· < ·))
    (value : Nat) : countUpTo entries.toArray value = entries.countP (· ≤ value) := by
  refine countUpToWithin_eq (fun index within => ?_) (Nat.zero_le _) ?_ (Nat.le_refl _) ?_
  · rw [List.size_toArray] at within
    rw [← getElem_le_iff_lt_countP increasing within]
    simp [Array.getD, within]
  · rw [List.size_toArray]
    exact List.countP_le_length
  · have := Nat.lt_log2_self (n := entries.toArray.size)
    rw [Nat.pow_succ] at this ⊢
    omega

/-- The search has the same outcome for two neighbours unless the second is an entry. -/
theorem countUpTo_succ {sorted : Array Nat} {value : Nat} (absent : value + 1 ∉ sorted.toList) :
    countUpTo sorted (value + 1) = countUpTo sorted value := by
  have alike (index : Nat) : sorted.getD index 0 ≤ value + 1 ↔ sorted.getD index 0 ≤ value := by
    have differs : sorted.getD index 0 ≠ value + 1 := by
      intro same
      rw [Array.getD_eq_getD_getElem?] at same
      cases found : sorted[index]? with
      | none => simp [found] at same
      | some entry =>
          rw [found, Option.getD_some] at same
          exact absent (Array.mem_def.1 (same ▸ Array.mem_of_getElem? found))
    omega
  simp only [countUpTo]
  generalize sorted.size.log2 + 2 = rounds
  generalize sorted.size = high
  generalize 0 = low
  induction rounds generalizing low high with
  | zero => rfl
  | succ rounds ih => simp only [countUpToWithin, alike, ih]

namespace CodeSet

/-! ## Merging -/

theorem mem_mergeHead {code entry : Nat} {rest : List Nat → List Nat} {left : List Nat}
    (merges : ∀ right, entry ∈ rest right ↔ entry ∈ left ∨ entry ∈ right) {right : List Nat} :
    entry ∈ mergeHead code rest right ↔ entry ∈ code :: left ∨ entry ∈ right := by
  induction right with
  | nil => simp [mergeHead, merges]
  | cons other others ih =>
      simp only [mergeHead]
      split
      · simp [merges, or_assoc]
      · split
        · rename_i same
          rw [ih, same]
          simp only [List.mem_cons]
          tauto
        · simp only [List.mem_cons, ih]
          tauto

theorem mem_merge {entry : Nat} {left right : List Nat} :
    entry ∈ merge left right ↔ entry ∈ left ∨ entry ∈ right := by
  induction left generalizing right with
  | nil => simp [merge]
  | cons code left ih => exact mem_mergeHead fun right => ih

theorem mem_mergeHead_id {code entry : Nat} {right : List Nat} :
    entry ∈ mergeHead code id right ↔ entry = code ∨ entry ∈ right := by
  have merges (right : List Nat) : entry ∈ id right ↔ entry ∈ [] ∨ entry ∈ right := by simp
  rw [mem_mergeHead merges, List.mem_singleton]

theorem mem_sort {entry : Nat} {codes : List Nat} : entry ∈ sort codes ↔ entry ∈ codes := by
  induction codes with
  | nil => rfl
  | cons code codes ih =>
      rw [sort, List.foldr_cons, ← sort, mem_mergeHead_id, ih, List.mem_cons]

theorem increasing_mergeHead {code : Nat} {entries : List Nat}
    (increasing : entries.Pairwise (· < ·)) : (mergeHead code id entries).Pairwise (· < ·) := by
  induction entries with
  | nil => exact List.pairwise_singleton _ _
  | cons entry entries ih =>
      rcases List.pairwise_cons.1 increasing with ⟨least, others⟩
      simp only [mergeHead, id_eq]
      split
      · rename_i less
        refine List.pairwise_cons.2 ⟨fun other member => ?_, increasing⟩
        rcases List.mem_cons.1 member with rfl | member
        · exact less
        · exact Nat.lt_trans less (least other member)
      · split
        · exact ih others
        · refine List.pairwise_cons.2 ⟨fun other member => ?_, ih others⟩
          rcases mem_mergeHead_id.1 member with rfl | member
          · omega
          · exact least other member

theorem increasing_sort (codes : List Nat) : (sort codes).Pairwise (· < ·) := by
  induction codes with
  | nil => exact List.Pairwise.nil
  | cons code codes ih => exact increasing_mergeHead ih

/-! ## Sweeping -/

theorem countP_le_succ (entries : List Nat) (value : Nat) :
    entries.countP (· ≤ value + 1) = entries.countP (· ≤ value) + entries.count (value + 1) := by
  induction entries with
  | nil => rfl
  | cons entry entries ih =>
      simp only [List.countP_cons, List.count_cons, ih, decide_eq_true_eq, beq_iff_eq]
      split_ifs <;> omega

/-- If the boundaries are the code points where membership changes, then a code point is
in the set if the number of boundaries up to it is odd. -/
theorem countP_odd_iff {holds : Nat → Bool} {boundaries : List Nat}
    (increasing : boundaries.Pairwise (· < ·))
    (changes : ∀ code, code ∈ boundaries ↔ holds code ≠ holdsBefore holds code) (code : Nat) :
    boundaries.countP (· ≤ code) % 2 = 1 ↔ holds code = true := by
  have distinct : boundaries.Nodup := increasing.imp Nat.ne_of_lt
  have count (code : Nat) :
      boundaries.count code = (holds code != holdsBefore holds code).toNat := by
    rw [distinct.count]
    by_cases member : code ∈ boundaries
    · rw [if_pos member, bne_iff_ne.2 ((changes code).1 member)]
      rfl
    · rw [if_neg member, bne_eq_false_iff_eq.2 (not_ne_iff.1 (mt (changes code).2 member))]
      rfl
  induction code with
  | zero =>
      have atStart : boundaries.countP (· ≤ 0) = boundaries.count 0 := by
        rw [List.count]
        exact List.countP_congr fun entry _ => by simp
      rw [atStart, count, holdsBefore]
      cases holds 0 <;> decide
  | succ code ih =>
      rw [countP_le_succ, count, holdsBefore]
      cases before : holds code <;> cases holds (code + 1) <;>
        simp only [before, reduceCtorEq, iff_true, iff_false, bne_self_eq_false, Bool.toNat_false,
          Bool.true_bne, Bool.false_bne, Bool.not_false, Bool.toNat_true] at ih ⊢ <;>
        omega

theorem contains_iff {set : CodeSet} (increasing : set.edges.Pairwise (· < ·))
    (character : Char) :
    set.contains character = true ↔ set.edges.countP (· ≤ character.toNat) % 2 = 1 := by
  rw [contains, beq_iff_eq, ← countUpTo_eq_countP increasing, edges, Array.toArray_toList]

variable {holds : Nat → Bool} {edges : List Nat}

theorem increasing_edges_sweep : (sweep holds edges).edges.Pairwise (· < ·) :=
  (increasing_sort edges).filter _

/-- A set that was swept has the characters that pass the test. -/
theorem contains_sweep
    (steady : ∀ code, code ∉ edges → holds code = holdsBefore holds code) (character : Char) :
    (sweep holds edges).contains character = holds character.toNat := by
  rw [Bool.eq_iff_iff, contains_iff increasing_edges_sweep]
  refine countP_odd_iff increasing_edges_sweep (fun code => ?_) _
  rw [CodeSet.edges, sweep, List.mem_filter, mem_sort, bne_iff_ne, and_iff_right_iff_imp]
  intro differs
  by_contra absent
  exact differs (steady code absent)

/-- The set of the code points of a list. -/
theorem contains_sweep_of_list (codes : List Nat) (character : Char) :
    (sweep codes.contains (codes.flatMap fun code => [code, code + 1])).contains character =
      codes.contains character.toNat := by
  refine contains_sweep (fun code apart => ?_) character
  simp only [List.mem_flatMap, List.mem_cons, List.not_mem_nil, or_false, not_exists, not_and,
    not_or] at apart
  have absent : code ∉ codes := fun listed => (apart code listed).1 rfl
  rw [List.contains_eq_mem, decide_eq_false absent]
  cases code with
  | zero => rfl
  | succ code =>
      have absentBefore : code ∉ codes := fun listed => (apart code listed).2 rfl
      rw [holdsBefore, List.contains_eq_mem, decide_eq_false absentBefore]

/-! ## Runs -/

/-- A code point lies in a run if the number of boundaries up to it is odd. -/
theorem mem_runsBetween_iff {boundaries : List Nat} (increasing : boundaries.Pairwise (· < ·))
    {code : Nat} (bounded : code ≤ 0x10FFFF) :
    (∃ run ∈ runsBetween boundaries, run.1 ≤ code ∧ code ≤ run.2) ↔
      boundaries.countP (· ≤ code) % 2 = 1 := by
  have none_of_lt {boundary : Nat} {others : List Nat} (above : code < boundary)
      (least : ∀ other ∈ others, boundary < other) : others.countP (· ≤ code) = 0 := by
    rw [List.countP_eq_zero]
    intro other member
    have := least other member
    simp only [decide_eq_true_eq]
    omega
  induction boundaries using runsBetween.induct with
  | case1 => simp [runsBetween]
  | case2 first =>
      simp only [runsBetween, List.mem_singleton, exists_eq_left, List.countP_cons,
        List.countP_nil, decide_eq_true_eq]
      split <;> omega
  | case3 first limit boundaries ih =>
      simp only [List.pairwise_cons, List.mem_cons, forall_eq_or_imp] at increasing
      rcases increasing with ⟨⟨less, least⟩, leastAfter, increasing⟩
      simp only [runsBetween, List.mem_cons, exists_eq_or_imp, ih increasing, List.countP_cons,
        decide_eq_true_eq]
      by_cases reached : limit ≤ code
      · rw [if_pos reached, if_pos (by omega)]
        omega
      · rw [if_neg reached, none_of_lt (Nat.lt_of_not_le reached) leastAfter]
        split <;> omega

/-- The runs of an increasing set hold its characters. -/
theorem mem_runs_iff {set : CodeSet} (increasing : set.edges.Pairwise (· < ·))
    (character : Char) :
    (∃ run ∈ set.runs, run.1 ≤ character.toNat ∧ character.toNat ≤ run.2) ↔
      set.contains character = true := by
  have bounded : character.toNat ≤ 0x10FFFF := by
    have := character.valid
    simp only [Char.toNat]
    omega
  rw [runs, mem_runsBetween_iff increasing bounded, contains_iff increasing]

end CodeSet

end Screenplay.Unicode
