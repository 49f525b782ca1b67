import Mathlib.Logic.Function.Iterate
import Screenplay.Pattern.Matching

/-!
# What expressions match

`Matches text expression start stop` says that an expression matches the stretch of a
text between two positions.  It is defined along the expression and does not mention
sets of positions.

The search reaches from a set of positions exactly those at which a match can end that
starts in the set.  A repetition without upper bound is followed for as many rounds as
the text has positions.  No further round is needed, because rounds that match nothing
can be left out and every other round goes forward.
-/

namespace Screenplay.Pattern

/-- Several rounds, one after the other, each of which goes from one position to
another. -/
inductive Rounds (round : Nat → Nat → Prop) : Nat → Nat → Nat → Prop
  | done (position : Nat) : Rounds round 0 position position
  | next {times start middle stop : Nat} (first : round start middle)
      (others : Rounds round times middle stop) : Rounds round (times + 1) start stop

/-- The character before a position. -/
def charBefore (text : List Char) (position : Nat) : Option Char :=
  (text.take position).getLast?

/-- The expression matches the stretch of a text between two positions.  The upper bound
of a repetition is not below the lower one. -/
def Matches (text : List Char) : Expression → Nat → Nat → Prop
  | .empty, start, stop => start = stop
  | .oneOf characters, start, stop =>
      ∃ character, text[start]? = some character ∧ characters.contains character = true ∧
        stop = start + 1
  | .assertion assertion, start, stop =>
      start ≤ text.length ∧ assertion.holds (charBefore text start) text[start]? = true ∧
        start = stop
  | .sequence first second, start, stop =>
      ∃ middle, Matches text first start middle ∧ Matches text second middle stop
  | .choice left right, start, stop =>
      Matches text left start stop ∨ Matches text right start stop
  | .repetition body least most, start, stop =>
      ∃ times, least ≤ times ∧ (∀ limit ∈ most, times ≤ max least limit) ∧
        Rounds (Matches text body) times start stop

section Rounds

variable {round : Nat → Nat → Prop}

@[simp] theorem rounds_zero {start stop : Nat} :
    Rounds round 0 start stop ↔ start = stop := by
  constructor
  · rintro ⟨⟩
    rfl
  · rintro rfl
    exact .done start

@[simp] theorem rounds_succ {times start stop : Nat} :
    Rounds round (times + 1) start stop ↔
      ∃ middle, round start middle ∧ Rounds round times middle stop := by
  constructor
  · rintro (_ | ⟨first, others⟩)
    exact ⟨_, first, others⟩
  · rintro ⟨middle, first, others⟩
    exact .next first others

theorem rounds_add {left right start stop : Nat} :
    Rounds round (left + right) start stop ↔
      ∃ middle, Rounds round left start middle ∧ Rounds round right middle stop := by
  induction left generalizing start with
  | zero => simp
  | succ left ih =>
      rw [Nat.succ_add, Nat.succ_eq_add_one, rounds_succ]
      constructor
      · rintro ⟨between, first, others⟩
        obtain ⟨middle, others, last⟩ := ih.1 others
        exact ⟨middle, .next first others, last⟩
      · rintro ⟨middle, others, last⟩
        obtain ⟨between, first, others⟩ := rounds_succ.1 others
        exact ⟨between, first, ih.2 ⟨middle, others, last⟩⟩

/-- When each round has a property that composes, so have all of them together. -/
theorem Rounds.fold {property : Nat → Nat → Prop} {times start stop : Nat}
    (rounds : Rounds round times start stop) (refl : ∀ position, property position position)
    (trans : ∀ start middle stop, property start middle → property middle stop →
      property start stop)
    (each : ∀ start stop, round start stop → property start stop) : property start stop := by
  induction rounds with
  | done position => exact refl position
  | next first others ih => exact trans _ _ _ (each _ _ first) ih

/-- Where rounds never go back, those that go forward are enough. -/
theorem Rounds.shorten {times start stop : Nat} (rounds : Rounds round times start stop)
    (forward : ∀ start stop, round start stop → start ≤ stop) :
    ∃ fewer ≤ stop - start, Rounds round fewer start stop := by
  induction rounds with
  | done position => exact ⟨0, Nat.zero_le _, .done position⟩
  | @next times start middle stop first others ih =>
      obtain ⟨fewer, bound, short⟩ := ih
      have goes := forward _ _ first
      have remains : middle ≤ stop :=
        others.fold Nat.le_refl (fun _ _ _ => Nat.le_trans) forward
      by_cases stays : start = middle
      · subst stays
        exact ⟨fewer, bound, short⟩
      · exact ⟨fewer + 1, by omega, .next first short⟩

end Rounds

/-- A match does not go back, and if it goes forward it stays inside the text. -/
theorem Matches.bounds {text : List Char} {expression : Expression} {start stop : Nat}
    (matched : Matches text expression start stop) :
    start ≤ stop ∧ stop ≤ max start text.length := by
  induction expression generalizing start stop with
  | empty =>
      subst matched
      exact ⟨Nat.le_refl _, Nat.le_max_left _ _⟩
  | oneOf characters =>
      obtain ⟨character, present, -, rfl⟩ := matched
      have inside := (List.getElem?_eq_some_iff.1 present).1
      omega
  | assertion assertion =>
      obtain ⟨-, -, rfl⟩ := matched
      omega
  | sequence first second firstBounds secondBounds =>
      obtain ⟨middle, matchedFirst, matchedSecond⟩ := matched
      have before := firstBounds matchedFirst
      have after := secondBounds matchedSecond
      omega
  | choice left right leftBounds rightBounds =>
      exact matched.elim leftBounds rightBounds
  | repetition body least most bodyBounds =>
      obtain ⟨times, -, -, rounds⟩ := matched
      refine rounds.fold ?_ ?_ fun _ _ => bodyBounds
      · omega
      · omega

section Positions

@[simp] theorem testBit_positionsOf (flags : List Bool) (position : Nat) :
    (positionsOf flags).testBit position = (flags[position]?).getD false := by
  induction flags generalizing position with
  | nil => simp [positionsOf]
  | cons flag flags ih =>
      cases position with
      | zero => cases flag <;> simp [positionsOf, Nat.add_mod]
      | succ position =>
          have half : positionsOf (flag :: flags) / 2 = positionsOf flags := by
            cases flag <;> simp only [positionsOf, Bool.toNat_true, Bool.toNat_false] <;> omega
          rw [Nat.testBit_succ, half, ih, List.getElem?_cons_succ]

theorem testBit_positionsBefore (characters : CharClass) (text : List Char)
    (position : Nat) :
    (positionsBefore characters text).testBit position = true ↔
      ∃ character, text[position]? = some character ∧
        characters.contains character = true := by
  rw [positionsBefore, testBit_positionsOf, List.getElem?_map]
  cases text[position]? <;> simp

theorem getElem?_assertionFlags (assertion : Assertion) (before : Option Char)
    (text : List Char) (position : Nat) :
    (assertionFlags assertion before text)[position]? =
      if position ≤ text.length then
        some (assertion.holds ((charBefore text position).or before) text[position]?)
      else none := by
  induction text generalizing before position with
  | nil => cases position <;> simp [assertionFlags, charBefore]
  | cons character text ih =>
      cases position with
      | zero => simp [assertionFlags, charBefore]
      | succ position =>
          have next : charBefore (character :: text) (position + 1) =
              (charBefore text position).or (some character) := by
            rw [charBefore, List.take_succ_cons, List.getLast?_cons, charBefore]
            cases (text.take position).getLast? <;> rfl
          rw [assertionFlags, List.getElem?_cons_succ, ih, next]
          simp

theorem testBit_assertionFlags (assertion : Assertion) (text : List Char)
    (position : Nat) :
    (positionsOf (assertionFlags assertion none text)).testBit position = true ↔
      position ≤ text.length ∧
        assertion.holds (charBefore text position) text[position]? = true := by
  rw [testBit_positionsOf, getElem?_assertionFlags, Option.or_none]
  split <;> simp [*]

theorem testBit_allPositions (text : List Char) (position : Nat) :
    (allPositions text).testBit position = true ↔ position ≤ text.length := by
  rw [allPositions, Nat.one_shiftLeft, Nat.testBit_two_pow_sub_one, decide_eq_true_eq,
    Nat.lt_succ_iff]

end Positions

section Steps

theorem applyTimes_eq_iterate (step : Nat → Nat) (times positions : Nat) :
    applyTimes step times positions = step^[times] positions := by
  induction times generalizing positions with
  | zero => rfl
  | succ times ih =>
      rw [applyTimes, Function.iterate_succ_apply]
      split
      · next fixed => rw [fixed, Function.iterate_fixed fixed]
      · exact ih _

theorem applyUpTo_eq_iterate (step : Nat → Nat) (times positions : Nat) :
    applyUpTo step times positions = (fun known => known ||| step known)^[times] positions := by
  induction times generalizing positions with
  | zero => rfl
  | succ times ih =>
      rw [applyUpTo, Function.iterate_succ_apply]
      split
      · next fixed =>
          rw [fixed, Function.iterate_fixed (f := fun known => known ||| step known) fixed]
      · exact ih _

variable {step : Nat → Nat} {round : Nat → Nat → Prop}

/-- One step of the search follows one round from every position. -/
def Follows (step : Nat → Nat) (round : Nat → Nat → Prop) : Prop :=
  ∀ positions stop, (step positions).testBit stop = true ↔
    ∃ start, positions.testBit start = true ∧ round start stop

theorem Follows.applyTimes (follows : Follows step round) (times : Nat) :
    Follows (applyTimes step times) (Rounds round times) := by
  intro positions stop
  rw [applyTimes_eq_iterate]
  induction times generalizing positions with
  | zero => simp
  | succ times ih =>
      rw [Function.iterate_succ_apply, ih]
      simp only [follows positions, rounds_succ]
      constructor
      · rintro ⟨middle, ⟨start, known, first⟩, others⟩
        exact ⟨start, known, middle, first, others⟩
      · rintro ⟨start, known, middle, first, others⟩
        exact ⟨middle, ⟨start, known, first⟩, others⟩

theorem Follows.applyUpTo (follows : Follows step round) (times : Nat) :
    Follows (applyUpTo step times) fun start stop =>
      ∃ fewer ≤ times, Rounds round fewer start stop := by
  intro positions stop
  rw [applyUpTo_eq_iterate]
  induction times generalizing positions with
  | zero => simp
  | succ times ih =>
      rw [Function.iterate_succ_apply, ih]
      simp only [Nat.testBit_or, Bool.or_eq_true, follows positions]
      constructor
      · rintro ⟨middle, known | ⟨start, known, first⟩, fewer, bound, others⟩
        · exact ⟨middle, known, fewer, Nat.le_succ_of_le bound, others⟩
        · exact ⟨start, known, fewer + 1, Nat.succ_le_succ bound, .next first others⟩
      · rintro ⟨start, known, fewer, bound, rounds⟩
        cases rounds with
        | done => exact ⟨stop, .inl known, 0, Nat.zero_le _, .done stop⟩
        | next first others =>
            exact ⟨_, .inr ⟨start, known, first⟩, _, Nat.le_of_succ_le_succ bound, others⟩

end Steps

/-- The rounds that the search follows for a repetition are enough. -/
theorem exists_rounds_iff {text : List Char} {body : Expression} {least : Nat}
    {most : Option Nat} {start stop : Nat} :
    (∃ middle, Rounds (Matches text body) least start middle ∧
      ∃ fewer ≤ (most.map (· - least)).getD (text.length + 1),
        Rounds (Matches text body) fewer middle stop) ↔
      Matches text (.repetition body least most) start stop := by
  constructor
  · rintro ⟨middle, needed, fewer, bound, others⟩
    refine ⟨least + fewer, Nat.le_add_right _ _, ?_, rounds_add.2 ⟨middle, needed, others⟩⟩
    rintro limit ⟨⟩
    have : fewer ≤ limit - least := bound
    omega
  · rintro ⟨times, enough, limited, rounds⟩
    obtain ⟨more, rfl⟩ := Nat.exists_eq_add_of_le enough
    obtain ⟨middle, needed, others⟩ := rounds_add.1 rounds
    refine ⟨middle, needed, ?_⟩
    cases most with
    | some limit =>
        have := limited limit rfl
        refine ⟨more, ?_, others⟩
        simp only [Option.map_some, Option.getD_some]
        omega
    | none =>
        -- Each round that is needed goes forward, and there are only so many positions.
        obtain ⟨fewer, bound, short⟩ := others.shorten fun _ _ matched => matched.bounds.1
        have many : Matches text (.repetition body 0 none) middle stop :=
          ⟨more, Nat.zero_le _, nofun, others⟩
        have inside := many.bounds.2
        refine ⟨fewer, ?_, short⟩
        simp only [Option.map_none, Option.getD_none]
        omega

/-- The search reaches the positions at which a match can end. -/
theorem follows_reach (text : List Char) (expression : Expression) :
    Follows (reach text expression) (Matches text expression) := by
  induction expression with
  | empty =>
      intro positions stop
      simp [reach, Matches]
  | oneOf characters =>
      intro positions stop
      rw [reach, Nat.testBit_shiftLeft]
      simp only [Nat.testBit_and, Bool.and_eq_true, testBit_positionsBefore,
        decide_eq_true_eq]
      constructor
      · rintro ⟨positive, known, character, present, contained⟩
        exact ⟨stop - 1, known, character, present, contained,
          (Nat.sub_add_cancel positive).symm⟩
      · rintro ⟨start, known, character, present, contained, rfl⟩
        exact ⟨Nat.succ_pos start, known, character, present, contained⟩
  | assertion assertion =>
      intro positions stop
      rw [reach, Nat.testBit_and, Bool.and_eq_true, testBit_assertionFlags]
      constructor
      · rintro ⟨known, inside, holds⟩
        exact ⟨stop, known, inside, holds, rfl⟩
      · rintro ⟨start, known, inside, holds, rfl⟩
        exact ⟨known, inside, holds⟩
  | sequence first second followsFirst followsSecond =>
      intro positions stop
      rw [reach, followsSecond]
      simp only [followsFirst positions]
      constructor
      · rintro ⟨middle, ⟨start, known, matched⟩, others⟩
        exact ⟨start, known, middle, matched, others⟩
      · rintro ⟨start, known, middle, matched, others⟩
        exact ⟨middle, ⟨start, known, matched⟩, others⟩
  | choice left right followsLeft followsRight =>
      intro positions stop
      rw [reach, Nat.testBit_or, Bool.or_eq_true, followsLeft, followsRight]
      constructor
      · rintro (⟨start, known, matched⟩ | ⟨start, known, matched⟩)
        · exact ⟨start, known, .inl matched⟩
        · exact ⟨start, known, .inr matched⟩
      · rintro ⟨start, known, matched | matched⟩
        · exact .inl ⟨start, known, matched⟩
        · exact .inr ⟨start, known, matched⟩
  | repetition body least most follows =>
      intro positions stop
      rw [reach, follows.applyUpTo]
      simp only [follows.applyTimes least positions, ← exists_rounds_iff]
      constructor
      · rintro ⟨middle, ⟨start, known, needed⟩, others⟩
        exact ⟨start, known, middle, needed, others⟩
      · rintro ⟨start, known, middle, needed, others⟩
        exact ⟨middle, ⟨start, known, needed⟩, others⟩

/-- An expression is found in a text when it matches some stretch of it. -/
theorem isFoundIn_iff_exists_matches {expression : Expression} {text : List Char} :
    expression.isFoundIn text = true ↔
      ∃ start stop, start ≤ text.length ∧ Matches text expression start stop := by
  have reached := follows_reach text expression (allPositions text)
  simp only [testBit_allPositions] at reached
  rw [Expression.isFoundIn, bne_iff_ne]
  constructor
  · intro nonempty
    obtain ⟨stop, isReached⟩ := Nat.exists_testBit_of_ne_zero nonempty
    obtain ⟨start, inside, matched⟩ := (reached stop).1 isReached
    exact ⟨start, stop, inside, matched⟩
  · rintro ⟨start, stop, inside, matched⟩ isZero
    have isReached := (reached stop).2 ⟨start, inside, matched⟩
    rw [isZero, Nat.zero_testBit] at isReached
    exact Bool.false_ne_true isReached

section Anchors

variable {text : List Char} {start stop : Nat}

theorem matches_textStart :
    Matches text (.assertion .textStart) start stop ↔ start = 0 ∧ stop = 0 := by
  simp only [Matches, Assertion.holds, charBefore, Option.isNone_iff_eq_none,
    List.getLast?_eq_none_iff, List.take_eq_nil_iff]
  constructor
  · rintro ⟨inside, rfl | rfl, rfl⟩
    · exact ⟨rfl, rfl⟩
    · have isZero := Nat.le_zero.1 inside
      exact ⟨isZero, isZero⟩
  · rintro ⟨rfl, rfl⟩
    exact ⟨Nat.zero_le _, .inl rfl, rfl⟩

theorem matches_textEnd :
    Matches text (.assertion .textEnd) start stop ↔
      start = text.length ∧ stop = text.length := by
  simp only [Matches, Assertion.holds, Option.isNone_iff_eq_none, List.getElem?_eq_none_iff]
  omega

/-- Between the two anchors, an expression is found in a text when it matches the whole
of it. -/
theorem isFoundIn_anchored_iff {expression : Expression} :
    (Expression.sequenceOf
      [.assertion .textStart, expression, .assertion .textEnd]).isFoundIn text = true ↔
      Matches text expression 0 text.length := by
  rw [isFoundIn_iff_exists_matches]
  simp only [Expression.sequenceOf, List.foldr_cons, List.foldr_nil]
  constructor
  · rintro ⟨start, stop, -, opened, starts, closed, matched, final, ends, rfl⟩
    obtain ⟨rfl, rfl⟩ := matches_textStart.1 starts
    obtain ⟨rfl, rfl⟩ := matches_textEnd.1 ends
    exact matched
  · intro matched
    exact ⟨0, _, Nat.zero_le _, 0, matches_textStart.2 ⟨rfl, rfl⟩, _, matched, _,
      matches_textEnd.2 ⟨rfl, rfl⟩, rfl⟩

end Anchors

end Screenplay.Pattern
