import Mathlib.Tactic.SplitIfs
import Screenplay.Pattern.Scanning

/-!
# Reading in front of a closing parenthesis

A source is read in front of the closing parenthesis of the group that it is put into and
the anchor after it.  A reader `Scans` when it goes through a text from left to right and,
in front of the parenthesis, reads what it reads without it, unless it goes on to the
parenthesis itself.  A comment at the end of a source does so.

Readers that are put together from readers that scan do so too.
-/

namespace Screenplay.Pattern

variable {α β : Type}

/-- What stands after the source of a pattern. -/
def closing : List Char := [')', '$']

theorem append_closing_ne_cons {expected : Char} (isOther : expected ≠ ')') {text : List Char}
    (isNotHead : ∀ rest, text = expected :: rest → False) (rest : List Char)
    (isHead : text ++ closing = expected :: rest) : False := by
  cases text with
  | nil =>
      cases isHead
      exact isOther rfl
  | cons first text =>
      cases isHead
      exact isNotHead text rfl

/-- What is left of a text whose closing parenthesis has been read. -/
def IsPast (rest : List Char) : Prop :=
  rest <:+ ['$']

theorem isPast_nil : IsPast [] :=
  List.nil_suffix

theorem IsPast.of_suffix {rest later : List Char} (past : IsPast rest)
    (suffix : later <:+ rest) : IsPast later :=
  suffix.trans past

/-- A reader goes through a text from left to right.  In front of the closing parenthesis
it reads what it reads without it, unless it leaves a text that is beyond. -/
structure Scans (beyond : List Char → Prop)
    (read : List Char → Option (α × List Char)) : Prop where
  suffix : ∀ {text : List Char} {value : α} {rest : List Char},
    read text = some (value, rest) → rest <:+ text
  own : ∀ {text : List Char} {value : α} {rest : List Char},
    read (text ++ closing) = some (value, rest) →
      beyond rest ∨ ∃ own, rest = own ++ closing ∧ read text = some (value, own)

/-- Leave the closing parenthesis after what is left. -/
def withClosing (found : α × List Char) : α × List Char :=
  (found.1, found.2 ++ closing)

/-- Read on after an expected character, or else from the same place. -/
def expecting (expected : Char) (headed plain : List Char → Option (α × List Char)) :
    List Char → Option (α × List Char)
  | [] => plain []
  | first :: rest => if first = expected then headed rest else plain (first :: rest)

section Expecting

variable {expected : Char} {headed plain : List Char → Option (α × List Char)}

theorem expecting_head (rest : List Char) :
    expecting expected headed plain (expected :: rest) = headed rest :=
  if_pos rfl

theorem expecting_other {text : List Char} (isOther : ∀ rest, text = expected :: rest → False) :
    expecting expected headed plain text = plain text := by
  cases text with
  | nil => rfl
  | cons first rest => exact if_neg fun isHead => isOther rest (by rw [isHead])

end Expecting

namespace Scans

variable {beyond : List Char → Prop}

theorem mono {read : List Char → Option (α × List Char)} {further : List Char → Prop}
    (scans : Scans beyond read) (weaker : ∀ rest, beyond rest → further rest) :
    Scans further read where
  suffix := scans.suffix
  own := fun found => (scans.own found).imp_left (weaker _)

theorem of_eq {read other : List Char → Option (α × List Char)}
    (scans : Scans beyond other) (same : ∀ text, read text = other text) :
    Scans beyond read := by
  rwa [funext same]

theorem pure (value : α) : Scans beyond fun text => some (value, text) where
  suffix := by
    rintro text value rest ⟨⟩
    exact List.suffix_rfl
  own := by
    rintro text value rest ⟨⟩
    exact .inr ⟨text, rfl, rfl⟩

theorem fail : Scans beyond fun _ : List Char => (none : Option (α × List Char)) where
  suffix := nofun
  own := nofun

/-- Read on after a reader. -/
theorem andThen {first : List Char → Option (α × List Char)}
    {next : α → List Char → Option (β × List Char)} (weaker : ∀ rest, IsPast rest → beyond rest)
    (scansFirst : Scans IsPast first) (scansNext : ∀ value, Scans beyond (next value)) :
    Scans beyond fun text => (first text).bind fun found => next found.1 found.2 where
  suffix := by
    intro text value rest found
    obtain ⟨⟨middle, between⟩, foundFirst, foundNext⟩ := Option.bind_eq_some_iff.1 found
    exact ((scansNext middle).suffix foundNext).trans (scansFirst.suffix foundFirst)
  own := by
    intro text value rest found
    obtain ⟨⟨middle, between⟩, foundFirst, foundNext⟩ := Option.bind_eq_some_iff.1 found
    rcases scansFirst.own foundFirst with past | ⟨own, rfl, ownFirst⟩
    · exact .inl (weaker rest (past.of_suffix ((scansNext middle).suffix foundNext)))
    · refine ((scansNext middle).own foundNext).imp_right ?_
      rintro ⟨later, rfl, ownNext⟩
      exact ⟨later, rfl, Option.bind_eq_some_iff.2 ⟨_, ownFirst, ownNext⟩⟩

theorem bind {first : List Char → Option (α × List Char)}
    {next : α → List Char → Option (β × List Char)} (scansFirst : Scans IsPast first)
    (scansNext : ∀ value, Scans IsPast (next value)) :
    Scans IsPast fun text => (first text).bind fun found => next found.1 found.2 :=
  scansFirst.andThen (fun _ past => past) scansNext

/-- Read on if something that does not depend on the text is given. -/
theorem lift {next : β → List Char → Option (α × List Char)} (given : Option β)
    (scans : ∀ value, Scans beyond (next value)) :
    Scans beyond fun text => given.bind fun value => next value text := by
  cases given with
  | none => exact .fail
  | some value => exact scans value

/-- Make something of what has been read, or refuse it. -/
theorem filterMap {read : List Char → Option (α × List Char)} (scans : Scans beyond read)
    (make : α → Option β) :
    Scans beyond fun text =>
      (read text).bind fun found => (make found.1).map fun made => (made, found.2) where
  suffix := by
    intro text value rest found
    obtain ⟨⟨before, between⟩, isRead, made⟩ := Option.bind_eq_some_iff.1 found
    obtain ⟨made, -, equal⟩ := Option.map_eq_some_iff.1 made
    cases equal
    exact scans.suffix isRead
  own := by
    intro text value rest found
    obtain ⟨⟨before, between⟩, isRead, made⟩ := Option.bind_eq_some_iff.1 found
    obtain ⟨made, isMade, equal⟩ := Option.map_eq_some_iff.1 made
    cases equal
    refine (scans.own isRead).imp_right ?_
    rintro ⟨own, rfl, ownRead⟩
    exact ⟨own, rfl, Option.bind_eq_some_iff.2 ⟨_, ownRead, by rw [isMade]; rfl⟩⟩

/-- A reader that takes a character. -/
theorem next {read : List Char → Option (α × List Char)} (onEmpty : read [] = none)
    (onClosing : ∀ {value rest}, read closing = some (value, rest) → beyond rest)
    (scans : ∀ character, Scans beyond fun rest => read (character :: rest)) :
    Scans beyond read where
  suffix := by
    intro text value rest found
    cases text with
    | nil =>
        rw [onEmpty] at found
        contradiction
    | cons character text =>
        exact ((scans character).suffix found).trans (List.suffix_cons _ _)
  own := by
    intro text value rest found
    cases text with
    | nil => exact .inl (onClosing found)
    | cons character text => exact (scans character).own found

/-- Two readers one of which is chosen by the first character. -/
theorem headed {headed plain : List Char → Option (α × List Char)} (expected : Char)
    (isOther : expected ≠ ')') (scansHeaded : Scans beyond headed)
    (scansPlain : Scans beyond plain) : Scans beyond (expecting expected headed plain) where
  suffix := by
    intro text value rest found
    by_cases isHead : ∃ later, text = expected :: later
    · obtain ⟨later, rfl⟩ := isHead
      rw [expecting_head] at found
      exact (scansHeaded.suffix found).trans (List.suffix_cons _ _)
    · rw [expecting_other (not_exists.1 isHead)] at found
      exact scansPlain.suffix found
  own := by
    intro text value rest found
    by_cases isHead : ∃ later, text = expected :: later
    · obtain ⟨later, rfl⟩ := isHead
      rw [List.cons_append, expecting_head] at found
      rw [expecting_head]
      exact scansHeaded.own found
    · rw [expecting_other (append_closing_ne_cons isOther (not_exists.1 isHead))] at found
      rw [expecting_other (not_exists.1 isHead)]
      exact scansPlain.own found

/-- A reader that refuses no text, and goes on to the closing parenthesis only to read all
that there is. -/
theorem of_total {read : List Char → α × List Char} (suffix : ∀ text, (read text).2 <:+ text)
    (append : ∀ text, read (text ++ closing) = withClosing (read text) ∨
      (read (text ++ closing)).2 = []) :
    Scans IsPast fun text => some (read text) where
  suffix := by
    intro text value rest found
    have left := suffix text
    rwa [Option.some.inj found] at left
  own := by
    intro text value rest found
    have isRead := Option.some.inj found
    rcases append text with kept | gone
    · rw [kept, withClosing, Prod.mk.injEq] at isRead
      obtain ⟨rfl, rfl⟩ := isRead
      exact .inr ⟨_, rfl, rfl⟩
    · rw [isRead] at gone
      subst gone
      exact .inl isPast_nil

/-- A reader that never goes on to the closing parenthesis. -/
theorem of_append {read : List Char → Option (α × List Char)}
    (suffix : ∀ {text value rest}, read text = some (value, rest) → rest <:+ text)
    (append : ∀ text, read (text ++ closing) = (read text).map withClosing) :
    Scans beyond read where
  suffix := suffix
  own := by
    intro text value rest found
    rw [append] at found
    obtain ⟨⟨value, own⟩, ownRead, equal⟩ := Option.map_eq_some_iff.1 found
    cases equal
    exact .inr ⟨own, rfl, ownRead⟩

/-- A reader that never goes on to the closing parenthesis, and another one for the texts
that it refuses. -/
theorem orElse {first : List Char → Option (α × List Char)}
    {second : List Char → Option (β × List Char)}
    (suffix : ∀ {text value rest}, first text = some (value, rest) → rest <:+ text)
    (append : ∀ text, first (text ++ closing) = (first text).map withClosing)
    (make : α → Option β) (scansSecond : Scans beyond second) :
    Scans beyond fun text =>
      (first text).elim (second text) fun found => (make found.1).map (·, found.2) where
  suffix := by
    intro text value rest found
    cases isRead : first text with
    | none =>
        rw [isRead] at found
        exact scansSecond.suffix found
    | some read =>
        rw [isRead] at found
        obtain ⟨made, -, equal⟩ := Option.map_eq_some_iff.1 found
        cases equal
        exact suffix isRead
  own := by
    intro text value rest found
    rw [append] at found
    cases isRead : first text with
    | none =>
        rw [isRead] at found
        exact scansSecond.own found
    | some read =>
        rw [isRead] at found
        obtain ⟨made, isMade, equal⟩ := Option.map_eq_some_iff.1 found
        cases equal
        exact .inr ⟨read.2, rfl, Option.map_eq_some_iff.2 ⟨_, isMade, rfl⟩⟩

end Scans

section Spaces

variable (verbose : Bool)

theorem skipComments_suffix (inComment : Bool) (text : List Char) :
    skipComments inComment text <:+ text := by
  induction text generalizing inComment with
  | nil => exact List.suffix_rfl
  | cons character text ih =>
      rw [skipComments]
      split_ifs
      · exact (ih _).trans (List.suffix_cons _ _)
      · exact (ih _).trans (List.suffix_cons _ _)
      · exact (ih _).trans (List.suffix_cons _ _)
      · exact List.suffix_rfl

/-- A comment runs on over what stands after it. -/
theorem skipComments_append (inComment : Bool) (text : List Char) :
    skipComments inComment (text ++ closing) = skipComments inComment text ++ closing ∨
      skipComments inComment (text ++ closing) = [] := by
  induction text generalizing inComment with
  | nil =>
      cases inComment with
      | false => exact .inl (by decide)
      | true => exact .inr (by decide)
  | cons character text ih =>
      rw [List.cons_append, skipComments, skipComments]
      split_ifs
      · exact ih _
      · exact ih _
      · exact ih _
      · exact .inl rfl

/-- A blank is passed over, and so is a number sign, with which a comment begins. -/
theorem skipComments_cons {character : Char}
    (isSpace : (Text.isBlank character || character == '#') = true) (rest : List Char) :
    skipComments false (character :: rest) = skipComments (!Text.isBlank character) rest := by
  rw [skipComments, if_neg Bool.false_ne_true]
  cases isBlank : Text.isBlank character with
  | true => rfl
  | false =>
      rw [isBlank, Bool.false_or] at isSpace
      rw [if_neg Bool.false_ne_true, if_pos isSpace]
      rfl

theorem isMeant {verbose : Bool} {character : Char} (notBlank : Text.isBlank character = false)
    (notComment : character ≠ '#') :
    ¬ (verbose && (Text.isBlank character || character == '#')) = true := by
  simp [notBlank, notComment]

/-- Nothing is passed over before a character that means something. -/
theorem skipSpace_of_isMeant {verbose : Bool} {character : Char}
    (isMeant : ¬ (verbose && (Text.isBlank character || character == '#')) = true)
    (rest : List Char) : skipSpace verbose (character :: rest) = character :: rest := by
  cases verbose with
  | false => rfl
  | true =>
      rw [Bool.true_and, Bool.or_eq_true, not_or] at isMeant
      rw [skipSpace, if_pos rfl, skipComments, if_neg Bool.false_ne_true, if_neg isMeant.1,
        if_neg isMeant.2]

/-- Pass over blanks and comments. -/
theorem scans_skipComments (inComment : Bool) :
    Scans IsPast fun text => some ((), skipComments inComment text) :=
  .of_total (skipComments_suffix inComment) fun text =>
    (skipComments_append inComment text).imp_left (congrArg (Prod.mk ()))

/-- Pass over what means nothing. -/
theorem scans_skipSpace : Scans IsPast fun text => some ((), skipSpace verbose text) := by
  cases verbose with
  | true => exact scans_skipComments false
  | false => exact .pure ()

theorem skipSpace_suffix (text : List Char) : skipSpace verbose text <:+ text :=
  (scans_skipSpace verbose).suffix rfl

theorem skipSpace_append (text : List Char) :
    skipSpace verbose (text ++ closing) = skipSpace verbose text ++ closing ∨
      skipSpace verbose (text ++ closing) = [] := by
  cases verbose with
  | true => exact skipComments_append false text
  | false => exact .inl rfl

theorem dropWhile_append_closing {skipped : Char → Bool} (stops : skipped ')' = false)
    (text : List Char) :
    (text ++ closing).dropWhile skipped = text.dropWhile skipped ++ closing := by
  have kept : closing.dropWhile skipped = closing := by
    rw [closing, List.dropWhile_cons_of_neg (by simp [stops])]
  rw [List.dropWhile_append, kept]
  split
  · next isEmpty =>
      rw [List.isEmpty_iff.1 isEmpty]
      rfl
  · rfl

theorem takeWhile_append_closing {taken : Char → Bool} (stops : taken ')' = false)
    (text : List Char) : (text ++ closing).takeWhile taken = text.takeWhile taken := by
  have isEmpty : closing.takeWhile taken = [] := by
    rw [closing, List.takeWhile_cons_of_neg (by simp [stops])]
  rw [List.takeWhile_append, isEmpty]
  split
  · next isWhole =>
      have same := List.IsPrefix.eq_of_length (List.takeWhile_prefix taken) isWhole
      rw [List.append_nil, same]
  · rfl

/-- A mark that does not stand after a source is found in the source, if at all. -/
theorem dropWhile_append_closing_of_all {skipped : Char → Bool}
    (passes : closing.dropWhile skipped = []) (text : List Char) :
    (text.dropWhile skipped = [] ∧ (text ++ closing).dropWhile skipped = []) ∨
      ∃ mark later, text.dropWhile skipped = mark :: later ∧
        (text ++ closing).dropWhile skipped = mark :: (later ++ closing) ∧
        (text ++ closing).takeWhile skipped = text.takeWhile skipped := by
  rw [List.dropWhile_append, List.takeWhile_append, passes]
  cases isLeft : text.dropWhile skipped with
  | nil => exact .inl ⟨rfl, rfl⟩
  | cons mark later =>
      have whole := congrArg List.length
        (List.takeWhile_append_dropWhile (p := skipped) (l := text))
      rw [isLeft, List.length_append, List.length_cons] at whole
      exact .inr ⟨mark, later, rfl, rfl, if_neg (by omega)⟩

/-- Pass over what means nothing, and over blanks in any case. -/
theorem scans_skipPadding :
    Scans IsPast fun text =>
      some ((), if verbose then skipComments false text else text.dropWhile Text.isBlank) := by
  cases verbose with
  | true => exact scans_skipComments false
  | false =>
      refine ⟨?_, ?_⟩
      · rintro text value rest ⟨⟩
        exact List.dropWhile_suffix _
      · rintro text value rest ⟨⟩
        exact .inr ⟨_, dropWhile_append_closing (by decide) text, rfl⟩

/-- Read after what means nothing. -/
theorem Scans.afterSpace {read : List Char → Option (α × List Char)}
    {beyond : List Char → Prop} (scans : Scans beyond read)
    (weaker : ∀ rest, IsPast rest → beyond rest) :
    Scans beyond fun text => read (skipSpace verbose text) :=
  (scans_skipSpace verbose).andThen weaker fun _ => scans

end Spaces

section Parts

variable (verbose : Bool)

theorem readBraced?_suffix {verbose inComment : Bool} {text name rest : List Char}
    (found : readBraced? verbose inComment text = some (name, rest)) : rest <:+ text := by
  induction text generalizing inComment name with
  | nil => simp [readBraced?] at found
  | cons character text ih =>
      refine List.IsSuffix.trans ?_ (List.suffix_cons character text)
      rw [readBraced?] at found
      split_ifs at found
      · exact ih found
      · exact ih found
      · exact ih found
      · cases found
        exact List.suffix_rfl
      · obtain ⟨⟨later, after⟩, isRead, equal⟩ := Option.map_eq_some_iff.1 found
        cases equal
        exact ih isRead

theorem readBraced?_append (inComment : Bool) (text : List Char) :
    readBraced? verbose inComment (text ++ closing) =
      (readBraced? verbose inComment text).map withClosing := by
  induction text generalizing inComment with
  | nil => cases verbose <;> cases inComment <;> decide
  | cons character text ih =>
      simp only [List.cons_append, readBraced?, ih, apply_ite (Option.map withClosing),
        Option.map_map, Option.map_some]
      rfl

theorem scans_readBraced? (inComment : Bool) : Scans IsPast (readBraced? verbose inComment) :=
  .of_append readBraced?_suffix (readBraced?_append verbose inComment)

theorem scans_readHexDigits? (missing : Nat) :
    Scans IsPast (readHexDigits? verbose missing) := by
  induction missing with
  | zero => exact .pure []
  | succ missing ih =>
      refine .next rfl (fun found => ?_) fun character => ?_
      · have isRefused : readHexDigits? verbose (missing + 1) closing = none := rfl
        rw [isRefused] at found
        contradiction
      · simp only [readHexDigits?]
        cases Text.hexValue? character with
        | none => exact .fail
        | some digit =>
            exact (ih.afterSpace verbose fun _ past => past).filterMap fun digits =>
              some (character :: digits)

theorem readDigits_suffix (inComment : Bool) (text : List Char) :
    (readDigits verbose inComment text).2 <:+ text := by
  induction text generalizing inComment with
  | nil => exact List.suffix_rfl
  | cons character text ih =>
      rw [readDigits]
      split_ifs
      · exact (ih _).trans (List.suffix_cons _ _)
      · exact (ih _).trans (List.suffix_cons _ _)
      · exact (ih _).trans (List.suffix_cons _ _)
      · exact (ih _).trans (List.suffix_cons _ _)
      · exact List.suffix_rfl

theorem readDigits_append (inComment : Bool) (text : List Char) :
    readDigits verbose inComment (text ++ closing) =
        withClosing (readDigits verbose inComment text) ∨
      (readDigits verbose inComment (text ++ closing)).2 = [] := by
  induction text generalizing inComment with
  | nil => cases verbose <;> cases inComment <;> decide
  | cons character text ih =>
      rw [List.cons_append, readDigits, readDigits]
      split_ifs
      · exact ih _
      · exact ih _
      · exact ih _
      · refine (ih false).imp (fun kept => ?_) fun gone => ?_
        · rw [kept]
          rfl
        · exact gone
      · exact .inl rfl

theorem scans_readDigits : Scans IsPast fun text => some (readDigits verbose false text) :=
  .of_total (readDigits_suffix verbose false) (readDigits_append verbose false)

/-- The count that digits stand for, if there are any, which must not be too large. -/
def countOf? (digits rest : List Char) : Option (Option Nat × List Char) :=
  match Text.readDigits? digits with
  | none => some (none, rest)
  | some value => if value < UInt32.size then some (some value, rest) else none

theorem scans_countOf? (digits : List Char) : Scans IsPast (countOf? digits) := by
  unfold countOf?
  cases Text.readDigits? digits with
  | none => exact .pure none
  | some value =>
      by_cases fits : value < UInt32.size
      · simp only [fits, if_true]
        exact .pure (some value)
      · simp only [fits, if_false]
        exact .fail

theorem scans_readCount? : Scans IsPast (readCount? verbose) :=
  (scans_skipPadding verbose).bind fun _ => (scans_readDigits verbose).bind fun digits =>
    (scans_skipPadding verbose).bind fun _ => scans_countOf? digits

end Parts

section Scan

/-- The text that a step has left, beside the next state or the result. -/
def outcome {State Result : Type} :
    State × List Char ⊕ Result × List Char → (State ⊕ Result) × List Char
  | .inl (state, rest) => (.inl state, rest)
  | .inr (result, rest) => (.inr result, rest)

variable {State Result : Type}
  {step : State → Char → List Char → Option (State × List Char ⊕ Result × List Char)}

theorem map_outcome_eq_inl {found : Option (State × List Char ⊕ Result × List Char)}
    {state : State} {rest : List Char} :
    found.map outcome = some (.inl state, rest) ↔ found = some (.inl (state, rest)) := by
  rcases found with _ | (found | found)
  · simp
  · simp [outcome, Prod.ext_iff]
  · simp [outcome]

theorem map_outcome_eq_inr {found : Option (State × List Char ⊕ Result × List Char)}
    {result : Result} {rest : List Char} :
    found.map outcome = some (.inr result, rest) ↔ found = some (.inr (result, rest)) := by
  rcases found with _ | (found | found)
  · simp
  · simp [outcome]
  · simp [outcome, Prod.ext_iff]

theorem scan_passed {rest remaining : List Char} (state : State)
    (suffix : remaining <:+ rest) :
    scan step (rest.length - remaining.length) state rest = scan step 0 state remaining := by
  obtain ⟨passed, rfl⟩ := suffix
  rw [List.length_append, Nat.add_sub_cancel]
  induction passed with
  | nil => rfl
  | cons first passed ih =>
      rw [List.length_cons, List.cons_append, scan]
      exact ih

/-- After a step, the scan goes on with what the step has left. -/
theorem scan_cons {state next : State} {first : Char} {rest remaining : List Char}
    (stepped : step state first rest = some (.inl (next, remaining)))
    (suffix : remaining <:+ rest) :
    scan step 0 state (first :: rest) = scan step 0 next remaining := by
  simp only [scan, stepped]
  exact scan_passed next suffix

/-- The result of a scan comes from one of its steps. -/
theorem exists_step_of_scan {state : State} {text : List Char} {passed : Nat}
    {result : Result × List Char} (ends : scan step passed state text = some (.inr result)) :
    ∃ state first before rest, text = before ++ first :: rest ∧
      step state first rest = some (.inr result) := by
  induction text generalizing passed state with
  | nil => cases passed <;> cases ends
  | cons first text ih =>
      have later {passed : Nat} {state : State}
          (ends : scan step passed state text = some (.inr result)) :
          ∃ state last before rest, first :: text = before ++ last :: rest ∧
            step state last rest = some (.inr result) := by
        obtain ⟨state, last, before, rest, rfl, stepped⟩ := ih ends
        exact ⟨state, last, first :: before, rest, rfl, stepped⟩
      cases passed with
      | succ passed => exact later ends
      | zero =>
          rw [scan] at ends
          split at ends
          · contradiction
          · next stepped =>
              cases ends
              exact ⟨state, first, [], text, rfl, stepped⟩
          · exact later ends

end Scan

end Screenplay.Pattern
