import Screenplay.Pattern.Basic
import Screenplay.Proofs.Pattern.Groups
import Screenplay.Proofs.Pattern.Meaning

/-!
# Patterns match whole values

A pattern is read from its source in a group between two anchors.  Unless the source
closes that group, it is a complete pattern on its own, and the group holds just its
expression.  A value is then matched when the expression of the source matches all of it.
-/

namespace Screenplay.Pattern

open Reader

/-- The group that a source is put into, after the first anchor. -/
def anchorFrame : GroupFrame :=
  ⟨false, [.assertion .textStart], [], {}⟩

theorem scan_anchored (source : String) :
    scan Reader.step 0 {} (Pattern.anchored source) =
      scan Reader.step 0 (({} : Reader).within anchorFrame) (source.toList ++ closing) := by
  have anchor : ({} : Reader).step '^' ('(' :: '?' :: ':' :: (source.toList ++ closing)) =
      some (.inl (({} : Reader).push (.assertion .textStart),
        '(' :: '?' :: ':' :: (source.toList ++ closing))) := rfl
  have group : (({} : Reader).push (.assertion .textStart)).step '('
      ('?' :: ':' :: (source.toList ++ closing)) =
        some (.inl (({} : Reader).within anchorFrame, source.toList ++ closing)) := rfl
  have isAnchored : Pattern.anchored source =
      '^' :: '(' :: '?' :: ':' :: (source.toList ++ closing) := by
    simp [Pattern.anchored, closing]
  rw [isAnchored, scan_cons anchor List.suffix_rfl, scan_cons group]
  exact (List.suffix_cons _ _).trans (List.suffix_cons _ _)

/-- The term of a source between the two anchors. -/
def anchoredTerm (own : Term) : Term :=
  .sequence [.assertion .textStart, .group false own, .assertion .textEnd]

theorem depth_anchoredTerm (own : Term) : (anchoredTerm own).depth = own.depth + 2 := by
  change 1 + max (max (max 0 0) (own.depth + 1)) 0 = own.depth + 2
  omega

theorem weight_anchoredTerm (own : Term) :
    (anchoredTerm own).weight = own.weight + 2 * Automaton.stateWeight := by
  change 0 + Automaton.stateWeight + (own.weight + 0) + Automaton.stateWeight = _
  omega

theorem expression_anchoredTerm (own : Term) :
    (anchoredTerm own).expression = Expression.sequenceOf
      [.assertion .textStart, own.expression, .assertion .textEnd] := rfl

/-- A pattern is what the reader has read when no group is left open, within bounds. -/
theorem ofText?_eq_some {text : List Char} {term : Term} :
    Term.ofText? text = some term ↔
      ∃ reader, scan Reader.step 0 {} text = some (.inl reader) ∧ reader.frames = [] ∧
        reader.close = term ∧ term.depth ≤ Term.depthLimit ∧ term.weight ≤ Term.weightLimit := by
  rw [Term.ofText?]
  rcases scan Reader.step 0 {} text with _ | (reader | ⟨impossible, -⟩)
  · simp
  · by_cases isComplete : reader.frames = []
    · simp only [finish?, isComplete, List.isEmpty_nil, if_true, Option.bind_eq_bind,
        Option.bind_some, Option.some.injEq, Sum.inl.injEq, Option.ite_none_right_eq_some,
        Bool.and_eq_true, decide_eq_true_eq]
      constructor
      · rintro ⟨⟨depthFits, weightFits⟩, rfl⟩
        exact ⟨reader, rfl, isComplete, rfl, depthFits, weightFits⟩
      · rintro ⟨reader, rfl, -, rfl, depthFits, weightFits⟩
        exact ⟨⟨depthFits, weightFits⟩, rfl⟩
    · simp [finish?, isComplete]
  · exact impossible.elim

/-- A source in which every group is closed becomes the group between the two anchors. -/
theorem scan_closing {own : Reader} (isOpen : own.frames = []) :
    ∃ final, scan Reader.step 0 (own.within anchorFrame) closing = some (.inl final) ∧
      final.frames = [] ∧ final.close = anchoredTerm own.close := by
  have frames : (own.within anchorFrame).frames = [anchorFrame] := by
    rw [within, isOpen, List.nil_append]
  have closed : (own.within anchorFrame).step ')' ['$'] = some (.inl ({ own with
      flags := {}
      terms := [.group false own.close, .assertion .textStart]
      alternatives := []
      frames := [] }, ['$'])) := by
    rw [step_construct (by decide) (by decide)]
    simp only [readConstruct?, leave?, frames]
    rfl
  have anchor (reader : Reader) (isPlain : reader.flags = {}) : reader.step '$' [] =
      some (.inl (reader.push (.assertion .textEnd), [])) := by
    rw [step_construct (by decide) (by decide)]
    simp only [readConstruct?, isPlain]
    rfl
  rw [closing, scan_cons closed List.suffix_rfl, scan_cons (anchor _ rfl) List.suffix_rfl]
  exact ⟨_, rfl, rfl, rfl⟩

/-- The closing parenthesis closes the group around a source in which every group is
closed. -/
theorem close_of_scan_closing {own final : Reader}
    (ends : scan Reader.step 0 (own.within anchorFrame) closing = some (.inl final))
    (isComplete : final.frames = []) :
    own.frames = [] ∧ final.close = anchoredTerm own.close := by
  cases isOpen : own.frames with
  | nil =>
      obtain ⟨last, closed, -, isClosed⟩ := scan_closing isOpen
      rw [closed] at ends
      cases ends
      exact ⟨rfl, isClosed⟩
  | cons frame frames =>
      -- The parenthesis closes a group of the source, and the one around it stays open.
      have stepped : ∃ next, (own.within anchorFrame).step ')' ['$'] = some (.inl (next, ['$'])) ∧
          next.frames = frames ++ [anchorFrame] := by
        have inner : (own.within anchorFrame).frames = frame :: (frames ++ [anchorFrame]) := by
          rw [within, isOpen, List.cons_append]
        rw [step_construct (by decide) (by decide)]
        simp only [readConstruct?, leave?, inner]
        exact ⟨_, rfl, rfl⟩
      obtain ⟨next, stepped, isLeft⟩ := stepped
      rw [closing, scan_cons stepped List.suffix_rfl] at ends
      rw [frames_of_scan_isPast List.suffix_rfl ends, isLeft] at isComplete
      simp at isComplete

/-- An accepted source that does not close the group around it is a pattern on its own. -/
theorem exists_ofText?_of_anchored {source : String} {term : Term}
    (accepted : Term.ofText? (Pattern.anchored source) = some term)
    (keeps : ¬ ClosesUnopened {} source.toList) :
    ∃ own, Term.ofText? source.toList = some own ∧
      term.expression = Expression.sequenceOf
        [.assertion .textStart, own.expression, .assertion .textEnd] := by
  obtain ⟨final, ends, isComplete, rfl, depthFits, weightFits⟩ := ofText?_eq_some.1 accepted
  rw [scan_anchored] at ends
  obtain ⟨own, ownEnds, ends⟩ := exists_own_scan keeps ends isComplete
  obtain ⟨isOwnComplete, isClosed⟩ := close_of_scan_closing ends isComplete
  rw [isClosed, depth_anchoredTerm] at depthFits
  rw [isClosed, weight_anchoredTerm] at weightFits
  refine ⟨own.close, ofText?_eq_some.2 ⟨own, ownEnds, isOwnComplete, rfl, ?_, ?_⟩, ?_⟩
  · omega
  · omega
  · rw [isClosed, expression_anchoredTerm]

/-- A source that is a pattern on its own closes no group that is not open. -/
theorem not_closesUnopened_of_ofText? {text : List Char} {term : Term}
    (isRead : Term.ofText? text = some term) : ¬ ClosesUnopened {} text := by
  obtain ⟨reader, ends, -⟩ := ofText?_eq_some.1 isRead
  exact not_closesUnopened ends

/-- A pattern whose source does not close the group that it is put into has a source that
is a pattern on its own, and it matches the values all of which that source matches. -/
theorem isMatch_iff_matches_whole (pattern : Pattern)
    (keeps : ¬ Reader.ClosesUnopened {} pattern.source.toList) :
    ∃ own, Term.ofText? pattern.source.toList = some own ∧
      ∀ value : String, pattern.isMatch value = true ↔
        Matches value.toList own.expression 0 value.toList.length := by
  obtain ⟨term, accepted, isExpression⟩ := Option.map_eq_some_iff.1 pattern.denotes
  obtain ⟨own, isOwn, isAnchored⟩ := exists_ofText?_of_anchored accepted keeps
  refine ⟨own, isOwn, fun value => ?_⟩
  rw [isMatch, ← isExpression, isAnchored]
  exact isFoundIn_anchored_iff

/-- Two wordings of a label. -/
theorem isMatch_iff_matches_whole_wordings :
    ∃ pattern : Pattern, pattern.source = "(sign|log) in" ∧
      ¬ Reader.ClosesUnopened {} pattern.source.toList ∧
      ∃ own, Term.ofText? pattern.source.toList = some own ∧
        ∀ value : String, pattern.isMatch value = true ↔
          Matches value.toList own.expression 0 value.toList.length := by
  have isAccepted : (expression? "(sign|log) in").isSome = true := by decide +kernel
  have isPattern : (Term.ofText? "(sign|log) in".toList).isSome = true := by decide +kernel
  obtain ⟨expression, denotes⟩ := Option.isSome_iff_exists.1 isAccepted
  obtain ⟨term, isRead⟩ := Option.isSome_iff_exists.1 isPattern
  have keeps := not_closesUnopened_of_ofText? isRead
  exact ⟨⟨"(sign|log) in", expression, denotes⟩, rfl, keeps,
    isMatch_iff_matches_whole ⟨"(sign|log) in", expression, denotes⟩ keeps⟩

/-- A source that closes the group that it is put into is accepted although it is not a
pattern on its own, and the pattern matches a value only the first character of which it
matches. -/
theorem isMatch_of_proper_part :
    ∃ pattern : Pattern, pattern.source = "a)|(?:b" ∧
      Term.ofText? pattern.source.toList = none ∧ pattern.isMatch "ax" = true ∧
      ¬ Matches "ax".toList pattern.expression 0 "ax".toList.length := by
  have isRefused : Term.ofText? "a)|(?:b".toList = none := by
    rw [← Option.isNone_iff_eq_none]
    decide +kernel
  have isAccepted : (expression? "a)|(?:b").any (fun expression =>
      expression.isFoundIn "ax".toList && !(reach "ax".toList expression 1).testBit 2) = true := by
    decide +kernel
  obtain ⟨expression, denotes, facts⟩ := (Option.any_eq_true _ _).1 isAccepted
  rw [Bool.and_eq_true, Bool.not_eq_true'] at facts
  refine ⟨⟨"a)|(?:b", expression, denotes⟩, rfl, isRefused, facts.1, fun matched => ?_⟩
  have isReached := (follows_reach _ expression 1 2).2 ⟨0, rfl, matched⟩
  rw [facts.2] at isReached
  exact Bool.false_ne_true isReached

end Screenplay.Pattern
