import Mathlib.Data.List.Forall2
import Screenplay.Proofs.Pattern.WholeValue

/-!
# Sources that stand for themselves

A source without the characters that patterns are written with is read one character at a
time, and each of them becomes a term of its own.  It opens no group and sets no flag, so
it is read alike in every group whose flags ignore case, keep to Unicode and do not pass
over blanks.

Such a source matches the texts with as many characters, each of which is the same up to
case as the one in its place.
-/

namespace Screenplay.Pattern

open Reader
open Unicode (Folding.sameUpToCase)

/-- The characters that patterns are written with. -/
def metacharacters : List Char :=
  ['\\', '.', '+', '*', '?', '(', ')', '|', '[', ']', '\x7b', '\x7d', '^', '$']

/-- A text has none of the characters that patterns are written with. -/
def Verbatim (text : List Char) : Prop :=
  ∀ character ∈ text, character ∉ metacharacters

instance (text : List Char) : Decidable (Verbatim text) :=
  decidable_of_iff (text.all (!metacharacters.contains ·) = true) (by simp [Verbatim])

/-- Two texts have as many characters, and those in the same place differ at most in
case. -/
def SameUpToCase (left right : List Char) : Prop :=
  List.Forall₂ (fun first second => Folding.sameUpToCase first second = true) left right

/-- Flags under which characters stand for themselves and their case variants. -/
structure Flags.KeepsCharacters (flags : Flags) : Prop where
  ignoreCase : flags.ignoreCase = true
  unicode : flags.unicode = true
  terse : flags.verbose = false

/-! ## Reading -/

/-- The term of a character that stands for itself. -/
def verbatimTerm (character : Char) : Term :=
  .oneOf (.ignoringCase (.single character)) 0

variable {reader : Reader} {character : Char} {text rest : List Char}

theorem readConstruct?_verbatim (verbatim : character ∉ metacharacters) (rest : List Char) :
    reader.readConstruct? character rest =
      (literal? reader.flags character false).bind fun term => some (reader.push term, rest) := by
  rw [readConstruct?]
  · rfl
  all_goals
    rintro rfl
    exact verbatim (by decide)

theorem step_verbatim (keeps : reader.flags.KeepsCharacters)
    (verbatim : character ∉ metacharacters) (rest : List Char) :
    reader.step character rest =
      some (.inl (reader.push (verbatimTerm character), rest)) := by
  have isMeant : ¬ (reader.flags.verbose &&
      (Text.isBlank character || character == '#')) = true := by
    simp [keeps.terse]
  have isLiteral : literal? reader.flags character false = some (verbatimTerm character) := by
    simp [literal?, Escape.regardingCase, keeps.unicode, keeps.ignoreCase, verbatimTerm]
  rw [step, if_neg isMeant, readConstruct?_verbatim verbatim, isLiteral]
  rfl

/-- A text that stands for itself is read as the terms of its characters. -/
theorem scan_verbatim (keeps : reader.flags.KeepsCharacters) (verbatim : Verbatim text)
    (rest : List Char) :
    scan Reader.step 0 reader (text ++ rest) =
      scan Reader.step 0
        { reader with terms := (text.map verbatimTerm).reverse ++ reader.terms } rest := by
  induction text generalizing reader with
  | nil => rfl
  | cons character text ih =>
      have stepped :=
        step_verbatim keeps (verbatim character (List.mem_cons_self ..)) (text ++ rest)
      rw [List.cons_append, scan_cons stepped List.suffix_rfl,
        ih (by exact keeps) fun later member => verbatim later (List.mem_cons_of_mem _ member)]
      simp only [push, List.map_cons, List.reverse_cons, List.append_assoc, List.singleton_append]

/-! ## Meaning -/

/-- The expression of a text that stands for itself. -/
def verbatimExpression (text : List Char) : Expression :=
  Expression.sequenceOf (text.map fun character => .oneOf (.ignoringCase (.single character)))

theorem expression_sequence (terms : List Term) :
    (Term.sequence terms).expression = Expression.sequenceOf (terms.map Term.expression) := by
  cases terms <;> rfl

theorem expression_verbatim (text : List Char) :
    (Term.sequence (text.map verbatimTerm)).expression = verbatimExpression text := by
  rw [expression_sequence, List.map_map]
  rfl

/-- A text that stands for itself matches the stretches that are the same up to case. -/
theorem matches_verbatim {value : List Char} {start stop : Nat} :
    Matches value (verbatimExpression text) start stop ↔
      stop = start + text.length ∧ SameUpToCase ((value.drop start).take text.length) text := by
  induction text generalizing start with
  | nil =>
      have isEmpty : verbatimExpression [] = .empty := rfl
      rw [isEmpty]
      simp only [Matches, List.length_nil, Nat.add_zero, List.take_zero, SameUpToCase,
        List.forall₂_nil_left_iff, and_true]
      exact eq_comm
  | cons character text ih =>
      have isSequence : verbatimExpression (character :: text) =
          .sequence (.oneOf (.ignoringCase (.single character))) (verbatimExpression text) := rfl
      rw [isSequence]
      simp only [Matches, CharClass.contains_ignoringCase_single, ih]
      cases shown : value.drop start with
      | nil =>
          have isPast : value[start]? = none := by
            rw [← Nat.add_zero start, ← List.getElem?_drop, shown]
            rfl
          simp [isPast, SameUpToCase]
      | cons first later =>
          have isFirst : value[start]? = some first := by
            rw [← Nat.add_zero start, ← List.getElem?_drop, shown]
            rfl
          have isLater : value.drop (start + 1) = later := by
            rw [← List.drop_drop, shown]
            rfl
          simp only [isFirst, List.length_cons, List.take_succ_cons, SameUpToCase,
            List.forall₂_cons]
          constructor
          · rintro ⟨_, ⟨_, ⟨⟩, same, rfl⟩, rfl, others⟩
            rw [isLater] at others
            exact ⟨by omega, same, others⟩
          · rintro ⟨rfl, same, others⟩
            refine ⟨start + 1, ⟨first, rfl, same, rfl⟩, by omega, ?_⟩
            rwa [isLater]

/-! ## Between the anchors -/

section Anchored

variable {source : String} {own : Reader}

/-- A source that is read to the end of its group denotes what has been read of it. -/
theorem expression?_eq_some_iff_of_scan
    (reads : scan Reader.step 0 (({} : Reader).within anchorFrame) (source.toList ++ closing) =
      scan Reader.step 0 (own.within anchorFrame) closing) (isComplete : own.frames = [])
    {expression : Expression} :
    expression? source = some expression ↔
      (anchoredTerm own.close).expression = expression ∧
        own.close.depth + 2 ≤ Term.depthLimit ∧
          own.close.weight + 2 * Automaton.stateWeight ≤ Term.weightLimit := by
  obtain ⟨final, ends, isFinal, closes⟩ := scan_closing isComplete
  simp only [expression?, Option.map_eq_some_iff, ofText?_eq_some, scan_anchored, reads, ends]
  constructor
  · rintro ⟨_, ⟨_, ⟨⟩, -, rfl, fits⟩, rfl⟩
    rw [closes, depth_anchoredTerm, weight_anchoredTerm] at fits
    exact ⟨by rw [closes], fits⟩
  · rintro ⟨rfl, fits⟩
    rw [← depth_anchoredTerm, ← weight_anchoredTerm, ← closes] at fits
    exact ⟨_, ⟨final, rfl, isFinal, closes, closes ▸ fits⟩, rfl⟩

/-- A pattern matches the values all of which are matched by what has been read of its
source. -/
theorem isMatch_iff_of_scan {pattern : Pattern}
    (reads : scan Reader.step 0 (({} : Reader).within anchorFrame)
        (pattern.source.toList ++ closing) =
      scan Reader.step 0 (own.within anchorFrame) closing) (isComplete : own.frames = [])
    (value : String) :
    pattern.isMatch value = true ↔
      Matches value.toList own.close.expression 0 value.toList.length := by
  obtain ⟨isExpression, -⟩ :=
    (expression?_eq_some_iff_of_scan reads isComplete).1 pattern.denotes
  rw [isMatch, ← isExpression, expression_anchoredTerm]
  exact isFoundIn_anchored_iff

end Anchored

/-- The reader after a text that stands for itself. -/
def afterVerbatim (text : List Char) : Reader :=
  { terms := (text.map verbatimTerm).reverse }

theorem close_afterVerbatim (text : List Char) :
    (afterVerbatim text).close = Term.sequence (text.map verbatimTerm) := by
  simp [afterVerbatim, close, Term.choice]

theorem scan_verbatim_anchored (verbatim : Verbatim text) :
    scan Reader.step 0 (({} : Reader).within anchorFrame) (text ++ closing) =
      scan Reader.step 0 ((afterVerbatim text).within anchorFrame) closing := by
  rw [scan_verbatim ⟨rfl, rfl, rfl⟩ verbatim]
  simp [afterVerbatim, within]

/-! ## Changes of flags -/

/-- A source in a group with a change of flags. -/
def flagged (letters : List Char) (source : String) : String :=
  "(?" ++ String.ofList letters ++ ":" ++ source ++ ")"

/-- A term in a group that captures nothing. -/
def groupedTerm (inner : Term) : Term :=
  .sequence [.group false inner]

theorem depth_groupedTerm (inner : Term) : (groupedTerm inner).depth = inner.depth + 1 := rfl

theorem weight_groupedTerm (inner : Term) : (groupedTerm inner).weight = inner.weight := by
  change 0 + (inner.weight + 0) = inner.weight
  omega

/-- The reader after a text that stands for itself in a group that captures nothing. -/
def afterFlagged (text : List Char) : Reader :=
  { terms := [.group false (.sequence (text.map verbatimTerm))] }

theorem close_afterFlagged (text : List Char) :
    (afterFlagged text).close = groupedTerm (.sequence (text.map verbatimTerm)) := rfl

theorem mem_of_areValid {letters : List Char} (valid : Flags.areValid letters = true) :
    ∀ letter ∈ letters, letter ∈ ['i', 'm', 's', 'R', 'u', 'x', 'U', '-'] := by
  simp only [Flags.areValid, Bool.and_eq_true, List.all_eq_true] at valid
  exact fun letter member => List.contains_iff_mem.1 (valid.1.1 letter member)

/-- A well-formed change of flags for a group is read as that, and the group begins. -/
theorem readGroup?_flagged {letters : List Char} (terse : reader.flags.verbose = false)
    (valid : Flags.areValid letters = true) (rest : List Char) :
    reader.readGroup? ('?' :: (letters ++ ':' :: rest)) =
      some (reader.enter false (reader.flags.apply letters), rest) := by
  have known := mem_of_areValid valid
  have notHead {first : Char}
      (other : first ∉ ['i', 'm', 's', 'R', 'u', 'x', 'U', '-', ':']) (later : List Char) :
      letters ++ ':' :: rest ≠ first :: later := by
    intro isHead
    cases letters with
    | nil =>
        cases isHead
        exact other (by decide)
    | cons letter letters =>
        cases isHead
        exact other (List.mem_append_left [':'] (known _ (List.mem_cons_self ..)))
  have isLetter : ∀ letter ∈ letters, (!endsFlags letter) = true := by
    have allowed : (['i', 'm', 's', 'R', 'u', 'x', 'U', '-'].all (!endsFlags ·)) = true := by
      decide
    exact fun letter member => List.all_eq_true.1 allowed letter (known letter member)
  have unskipped : skipSpace false ('?' :: (letters ++ ':' :: rest)) =
      '?' :: (letters ++ ':' :: rest) := rfl
  rw [readGroup?_eq, terse, unskipped, expecting_head,
    readMarked?_flags reader (notHead (by decide)) (notHead (by decide)) (notHead (by decide))
      (fun _ => notHead (by decide) _),
    readFlags?_eq, List.takeWhile_append_of_pos isLetter, List.dropWhile_append_of_pos isLetter,
    List.takeWhile_cons_of_neg (by decide), List.dropWhile_cons_of_neg (by decide),
    List.append_nil, valid]
  rfl

/-- A text that stands for itself is read in a group with a change of flags as it is
elsewhere. -/
theorem scan_flagged {letters : List Char} (terse : reader.flags.verbose = false)
    (valid : Flags.areValid letters = true)
    (keeps : (reader.flags.apply letters).KeepsCharacters) (verbatim : Verbatim text)
    (rest : List Char) :
    scan Reader.step 0 reader ('(' :: '?' :: (letters ++ ':' :: (text ++ ')' :: rest))) =
      scan Reader.step 0 (reader.push (.group false (.sequence (text.map verbatimTerm)))) rest := by
  have opened : reader.step '(' ('?' :: (letters ++ ':' :: (text ++ ')' :: rest))) =
      some (.inl (reader.enter false (reader.flags.apply letters), text ++ ')' :: rest)) := by
    rw [step_construct (by decide) (by decide)]
    simp only [readConstruct?, readGroup?_flagged terse valid]
    rfl
  have closed (terms : List Term) :
      { reader.enter false (reader.flags.apply letters) with terms := terms }.step ')' rest =
        some (.inl (reader.push (.group false (.sequence terms.reverse)), rest)) := by
    rw [step_construct (by decide) (by decide)]
    rfl
  have suffix : text ++ ')' :: rest <:+ '?' :: (letters ++ ':' :: (text ++ ')' :: rest)) :=
    ⟨'?' :: (letters ++ [':']), by simp⟩
  rw [scan_cons opened suffix, scan_verbatim keeps verbatim,
    scan_cons (closed _) List.suffix_rfl]
  simp [enter]

theorem scan_flagged_anchored {letters : List Char} {source : String}
    (valid : Flags.areValid letters = true)
    (keeps : (({} : Flags).apply letters).KeepsCharacters) (verbatim : Verbatim source.toList) :
    scan Reader.step 0 (({} : Reader).within anchorFrame)
        ((flagged letters source).toList ++ closing) =
      scan Reader.step 0 ((afterFlagged source.toList).within anchorFrame) closing := by
  have isFlagged : (flagged letters source).toList ++ closing =
      '(' :: '?' :: (letters ++ ':' :: (source.toList ++ ')' :: closing)) := by
    simp [flagged]
  rw [isFlagged, scan_flagged rfl valid keeps verbatim]
  rfl

/-- The characters of a text are not nested in one another. -/
theorem depth_verbatim (text : List Char) :
    (Term.sequence (text.map verbatimTerm)).depth ≤ 1 := by
  have flat (text : List Char) :
      ((text.map verbatimTerm).map Term.depth).foldl max 0 = 0 := by
    induction text with
    | nil => rfl
    | cons character text ih => exact ih
  match text with
  | [] => exact Nat.zero_le 1
  | [_] => exact Nat.zero_le 1
  | first :: second :: text =>
      exact Nat.le_of_eq (congrArg (1 + ·) (flat (first :: second :: text)))

/-! ## Patterns -/

section Patterns

variable {pattern : Pattern}

/-- The whole of a stretch is the text itself. -/
theorem matches_verbatim_whole (value text : List Char) :
    Matches value (verbatimExpression text) 0 value.length ↔ SameUpToCase value text := by
  rw [matches_verbatim, Nat.zero_add, List.drop_zero]
  constructor
  · rintro ⟨sameLength, same⟩
    rwa [← sameLength, List.take_length] at same
  · intro same
    have sameLength := same.length_eq
    exact ⟨sameLength, by rwa [← sameLength, List.take_length]⟩

/-- A source that stands for itself matches the values that are the same up to case. -/
theorem isMatch_verbatim (verbatim : Verbatim pattern.source.toList) (value : String) :
    pattern.isMatch value = true ↔ SameUpToCase value.toList pattern.source.toList := by
  rw [isMatch_iff_of_scan (scan_verbatim_anchored verbatim) rfl, close_afterVerbatim,
    expression_verbatim]
  exact matches_verbatim_whole _ _

/-- A source that stands for itself is a pattern on its own. -/
theorem exists_ofText?_verbatim (verbatim : Verbatim pattern.source.toList) :
    ∃ own, Term.ofText? pattern.source.toList = some own ∧
      own.expression = verbatimExpression pattern.source.toList := by
  obtain ⟨-, depthFits, weightFits⟩ :=
    (expression?_eq_some_iff_of_scan (scan_verbatim_anchored verbatim) rfl).1 pattern.denotes
  have ends : scan Reader.step 0 {} pattern.source.toList =
      some (.inl (afterVerbatim pattern.source.toList)) := by
    rw [← List.append_nil pattern.source.toList, scan_verbatim ⟨rfl, rfl, rfl⟩ verbatim]
    simp [scan, afterVerbatim]
  refine ⟨_, ofText?_eq_some.2 ⟨_, ends, rfl, rfl, ?_, ?_⟩, ?_⟩
  · omega
  · omega
  · rw [close_afterVerbatim, expression_verbatim]

/-- A change of flags after which characters are kept changes nothing about what is
matched. -/
theorem exists_isMatch_flagged (verbatim : Verbatim pattern.source.toList)
    {letters : List Char} (valid : Flags.areValid letters = true)
    (keeps : (({} : Flags).apply letters).KeepsCharacters) :
    ∃ other : Pattern, other.source = flagged letters pattern.source ∧
      ∀ value, other.isMatch value = true ↔
        SameUpToCase value.toList pattern.source.toList := by
  have reads := scan_flagged_anchored valid keeps verbatim
  obtain ⟨-, -, weightFits⟩ :=
    (expression?_eq_some_iff_of_scan (scan_verbatim_anchored verbatim) rfl).1 pattern.denotes
  rw [close_afterVerbatim] at weightFits
  have accepted : expression? (flagged letters pattern.source) =
      some (anchoredTerm (afterFlagged pattern.source.toList).close).expression := by
    refine (expression?_eq_some_iff_of_scan reads rfl).2 ⟨rfl, ?_, ?_⟩
    · have shallow := depth_verbatim pattern.source.toList
      rw [close_afterFlagged, depth_groupedTerm, Term.depthLimit]
      omega
    · rwa [close_afterFlagged, weight_groupedTerm]
  obtain ⟨other, isFlagged⟩ : ∃ other : Pattern, other.source = flagged letters pattern.source :=
    ⟨⟨_, _, accepted⟩, rfl⟩
  rw [← isFlagged] at reads
  refine ⟨other, isFlagged, fun value => ?_⟩
  rw [isMatch_iff_of_scan reads rfl, close_afterFlagged, ← matches_verbatim_whole,
    ← expression_verbatim]
  simp [groupedTerm, Term.sequence, Expression.sequenceOf, Term.group, Matches]

end Patterns

end Screenplay.Pattern
