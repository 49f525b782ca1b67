import Screenplay.Pattern.Reader
import Screenplay.Proofs.Pattern.Classes

/-!
# Patterns inside of a group

A source is read inside of a group as it is read on its own, with one more group around
the others, until the closing parenthesis after it is read.  That parenthesis closes the
group if the source is complete.  If the source has a closing parenthesis for which it has
opened no group, then that one closes the group instead.
-/

namespace Screenplay.Pattern.Reader

/-- The reader inside of one more group, which is around the others. -/
def within (reader : Reader) (outer : GroupFrame) : Reader :=
  { reader with frames := reader.frames ++ [outer] }

/-- In a text, the reader comes to a closing parenthesis when no group is open. -/
inductive ClosesUnopened : Reader → List Char → Prop
  | here {reader : Reader} {rest : List Char} (isOutside : reader.frames = []) :
      ClosesUnopened reader (')' :: rest)
  | later {reader next : Reader} {character : Char} {rest remaining : List Char}
      (stepped : reader.step character rest = some (.inl (next, remaining)))
      (closes : ClosesUnopened next remaining) : ClosesUnopened reader (character :: rest)

section Within

variable {reader : Reader} {outer : GroupFrame}

theorem within_frames_ne_nil : (reader.within outer).frames ≠ [] :=
  List.append_ne_nil_of_right_ne_nil _ (List.cons_ne_nil _ _)

/-- What has been read, inside of one more group. -/
def withinFound (outer : GroupFrame) (found : Reader × List Char) : Reader × List Char :=
  (found.1.within outer, found.2)

@[simp] theorem within_flags : (reader.within outer).flags = reader.flags := rfl

@[simp] theorem within_names : (reader.within outer).names = reader.names := rfl

theorem enterNamed?_within (text : List Char) :
    (reader.within outer).enterNamed? text =
      (reader.enterNamed? text).map (withinFound outer) := by
  simp only [enterNamed?, within_names]
  split
  · rfl
  · rw [apply_ite (Option.map (withinFound outer))]
    rfl

theorem readFlags?_within (text : List Char) :
    (reader.within outer).readFlags? text =
      (reader.readFlags? text).map (withinFound outer) := by
  simp only [readFlags?, within_flags, apply_ite (Option.map (withinFound outer))]
  split
  · rfl
  · split
    · rfl
    · rw [apply_ite (Option.map (withinFound outer))]
      rfl
    · rfl

theorem readGroup?_within (text : List Char) :
    (reader.within outer).readGroup? text =
      (reader.readGroup? text).map (withinFound outer) := by
  simp only [readGroup?, within_flags]
  split
  · rfl
  · rfl
  · rfl
  · rfl
  · exact enterNamed?_within _
  · exact enterNamed?_within _
  · exact readFlags?_within _
  · rfl

theorem repeat?_within (least : Nat) (most : Option Nat) :
    (reader.within outer).repeat? least most =
      (reader.repeat? least most).map (·.within outer) := by
  simp only [repeat?, within]
  split
  · rfl
  · split
    · rfl
    · rfl

/-- Inside of one more group, the innermost group is closed as before. -/
theorem leave?_within (isInside : reader.frames ≠ []) :
    (reader.within outer).leave? = reader.leave?.map (·.within outer) := by
  obtain ⟨frame, frames, isInner⟩ := List.exists_cons_of_ne_nil isInside
  simp only [leave?, within, isInner, List.cons_append]
  rfl

theorem readConstruct?_within {character : Char} (isInside : character = ')' → reader.frames ≠ [])
    (rest : List Char) :
    (reader.within outer).readConstruct? character rest =
      (reader.readConstruct? character rest).map (withinFound outer) := by
  have sameFlags : (reader.within outer).flags = reader.flags := rfl
  by_cases isClose : character = ')'
  · subst isClose
    simp only [readConstruct?, leave?_within (isInside rfl)]
    cases reader.leave? <;> rfl
  · simp only [readConstruct?, sameFlags]
    split
    · exact readGroup?_within rest
    · contradiction
    · rfl
    · cases Bracket.read? reader.flags rest <;> rfl
    · rw [repeat?_within]
      cases reader.repeat? 0 (some 1) <;> rfl
    · rw [repeat?_within]
      cases reader.repeat? 0 none <;> rfl
    · rw [repeat?_within]
      cases reader.repeat? 1 none <;> rfl
    · cases readBounds? reader.flags.verbose rest with
      | none => rfl
      | some found =>
          obtain ⟨least, most, rest⟩ := found
          simp only [Option.bind_eq_bind, Option.bind_some, repeat?_within]
          cases reader.repeat? least most <;> rfl
    · cases Escape.read? reader.flags rest with
      | none => rfl
      | some found =>
          simp only [Option.bind_eq_bind, Option.bind_some]
          cases escapeTerm? reader.flags found.1 <;> rfl
    · cases dot? reader.flags <;> rfl
    · rfl
    · rfl
    · cases literal? reader.flags character false <;> rfl

end Within

section Reading

variable (verbose : Bool) (reader : Reader)

theorem scans_skipReluctance : Scans IsPast fun text => some ((), skipReluctance text) := by
  refine (Scans.headed '?' (by decide) (.pure ()) (.pure ())).of_eq fun text => ?_
  unfold skipReluctance
  split
  · rw [expecting_head]
  · next isOther => rw [expecting_other isOther]

/-- The upper bound of a counted repetition, and the closing brace after it. -/
def upperBound? (least : Nat) (text : List Char) :
    Option ((Nat × Option Nat) × List Char) := do
  let (most, rest) ← readCount? verbose text
  let most ← most
  expecting '\x7d' (fun rest => if least ≤ most then some ((least, some most), rest) else none)
    (fun _ => none) rest

/-- What follows the lower bound of a counted repetition. -/
def afterLeast? (least : Nat) : List Char → Option ((Nat × Option Nat) × List Char) :=
  expecting '\x7d' (fun rest => some ((least, some least), rest))
    (expecting ',' (fun rest =>
        expecting '\x7d' (fun rest => some ((least, none), rest)) (upperBound? verbose least)
          (skipSpace verbose rest))
      fun _ => none)

theorem scans_afterLeast? (least : Nat) : Scans IsPast (afterLeast? verbose least) := by
  have brace (most : Nat) : Scans IsPast (expecting '\x7d' (fun rest =>
      if least ≤ most then some ((least, some most), rest) else none) fun _ => none) := by
    refine .headed '\x7d' (by decide) ?_ .fail
    by_cases inOrder : least ≤ most
    · simp only [inOrder, if_true]
      exact .pure _
    · simp only [inOrder, if_false]
      exact .fail
  have upper : Scans IsPast (upperBound? verbose least) :=
    (scans_readCount? verbose).bind fun most => Scans.lift most brace
  exact .headed '\x7d' (by decide) (.pure _) (.headed ',' (by decide)
    ((Scans.headed '\x7d' (by decide) (.pure _) upper).afterSpace verbose fun _ past => past) .fail)

theorem upperBound?_eq (least : Nat) (text : List Char) :
    (do
      let (most, rest) ← readCount? verbose text
      let most ← most
      match rest with
      | '\x7d' :: rest => if least ≤ most then some (least, some most, rest) else none
      | _ => none).map (fun found : Nat × Option Nat × List Char =>
        ((found.1, found.2.1), found.2.2)) = upperBound? verbose least text := by
  rw [upperBound?]
  cases readCount? verbose text with
  | none => rfl
  | some found =>
      obtain ⟨most, rest⟩ := found
      cases most with
      | none => rfl
      | some most =>
          simp only [Option.bind_eq_bind, Option.bind_some]
          split
          · rw [expecting_head, apply_ite (Option.map _)]
            rfl
          · next isOther =>
              rw [expecting_other isOther]
              rfl

theorem readBounds?_eq (text : List Char) :
    (readBounds? verbose text).map (fun found => ((found.1, found.2.1), found.2.2)) =
      (readCount? verbose text).bind fun found =>
        found.1.bind fun least => afterLeast? verbose least found.2 := by
  rw [readBounds?]
  cases readCount? verbose text with
  | none => rfl
  | some found =>
      obtain ⟨least, rest⟩ := found
      cases least with
      | none => rfl
      | some least =>
          simp only [Option.bind_eq_bind, Option.bind_some, afterLeast?]
          split
          · rw [expecting_head]
            rfl
          · next rest =>
              rw [expecting_other (by simp), expecting_head]
              split
              · next later isBrace =>
                  rw [isBrace, expecting_head]
                  rfl
              · next isOther =>
                  rw [expecting_other isOther]
                  exact upperBound?_eq verbose least _
          · next notBrace notComma =>
              rw [expecting_other notBrace, expecting_other notComma]
              rfl

theorem scans_readBounds? : Scans IsPast fun text =>
    (readBounds? verbose text).map fun found => ((found.1, found.2.1), found.2.2) :=
  ((scans_readCount? verbose).bind fun least =>
    Scans.lift least fun least => scans_afterLeast? verbose least).of_eq (readBounds?_eq verbose)

/-- Begin a group whose name has been read. -/
def enterAs? (name rest : List Char) : Option (Reader × List Char) :=
  if isGroupName name && !reader.names.contains (String.ofList name) then
    some ({ reader.enter true reader.flags with
      names := String.ofList name :: reader.names }, rest)
  else
    none

theorem enterNamed?_eq {text : List Char} :
    reader.enterNamed? text =
      match text.dropWhile (· != '>') with
      | [] => none
      | _ :: rest => reader.enterAs? (text.takeWhile (· != '>')) rest := rfl

theorem scans_enterAs? (name : List Char) : Scans IsPast (reader.enterAs? name) := by
  unfold enterAs?
  split
  · exact .pure _
  · exact .fail

theorem scans_enterNamed? : Scans IsPast reader.enterNamed? := by
  refine .of_append ?_ fun text => ?_
  · intro text found rest isRead
    rw [enterNamed?_eq] at isRead
    split at isRead
    · contradiction
    · next later isLeft =>
        have inside := List.dropWhile_suffix (l := text) (· != '>')
        rw [isLeft] at inside
        exact ((scans_enterAs? reader _).suffix isRead).trans
          ((List.suffix_cons _ _).trans inside)
  · rcases dropWhile_append_closing_of_all (by decide : closing.dropWhile (· != '>') = []) text
      with ⟨isAbsent, isAbsentInContext⟩ | ⟨mark, later, isLeft, kept, same⟩
    · rw [enterNamed?_eq, enterNamed?_eq, isAbsent, isAbsentInContext]
      rfl
    · rw [enterNamed?_eq, enterNamed?_eq, isLeft, kept, same]
      simp only [enterAs?, apply_ite (Option.map withClosing)]
      rfl

/-- Whether a character ends a change of flags. -/
def endsFlags (character : Char) : Bool :=
  character == ':' || character == ')'

/-- Apply a change of flags, which is for a group or for the rest of the innermost one. -/
def applyFlags? (letters : List Char) : List Char → Option (Reader × List Char)
  | ':' :: rest => some (reader.enter false (reader.flags.apply letters), rest)
  | ')' :: rest =>
      if letters.isEmpty then none
      else some ({ reader with flags := reader.flags.apply letters }.push .directive, rest)
  | _ => none

theorem readFlags?_eq (text : List Char) :
    reader.readFlags? text =
      if !Flags.areValid (text.takeWhile (!endsFlags ·)) then none
      else reader.applyFlags? (text.takeWhile (!endsFlags ·)) (text.dropWhile (!endsFlags ·)) :=
  rfl

theorem scans_applyFlags? (letters : List Char) : Scans IsPast (reader.applyFlags? letters) := by
  refine .next rfl ?_ fun mark => ?_
  · intro found rest isRead
    simp only [closing, applyFlags?] at isRead
    split at isRead
    · contradiction
    · cases isRead
      exact List.suffix_rfl
  · by_cases isColon : mark = ':'
    · subst isColon
      exact .pure _
    · by_cases isParenthesis : mark = ')'
      · subst isParenthesis
        cases isEmpty : letters.isEmpty with
        | true => exact Scans.fail.of_eq fun rest => if_pos isEmpty
        | false => exact (Scans.pure _).of_eq fun rest => if_neg (by simp [isEmpty])
      · refine Scans.fail.of_eq fun rest => ?_
        rw [applyFlags?]
        · simpa using isColon
        · simpa using isParenthesis

theorem scans_readFlags? : Scans IsPast reader.readFlags? where
  suffix := by
    intro text found rest isRead
    rw [readFlags?_eq] at isRead
    split at isRead
    · contradiction
    · exact ((scans_applyFlags? reader _).suffix isRead).trans (List.dropWhile_suffix _)
  own := by
    intro text found rest isRead
    have stops : (!endsFlags ')') = false := by decide
    rw [readFlags?_eq, takeWhile_append_closing stops, dropWhile_append_closing stops] at isRead
    rw [readFlags?_eq]
    split at isRead
    · contradiction
    · next isValid =>
        rw [if_neg isValid]
        exact (scans_applyFlags? reader _).own isRead

theorem readFlags?_invalid (rest : List Char) : reader.readFlags? ('P' :: rest) = none := by
  have isInvalid (letters : List Char) : Flags.areValid ('P' :: letters) = false := by
    simp [Flags.areValid]
  rw [readFlags?_eq, List.takeWhile_cons_of_pos (by decide), isInvalid]
  rfl

/-- What follows the mark of a group that is not plain. -/
def readMarked? : List Char → Option (Reader × List Char) :=
  expecting '=' (fun _ => none)
    (expecting '!' (fun _ => none)
      (expecting '<'
        (expecting '=' (fun _ => none) (expecting '!' (fun _ => none) reader.enterNamed?))
        (expecting 'P' (expecting '<' reader.enterNamed? fun _ => none) reader.readFlags?)))

theorem scans_readMarked? : Scans IsPast reader.readMarked? :=
  .headed '=' (by decide) .fail (.headed '!' (by decide) .fail (.headed '<' (by decide)
    (.headed '=' (by decide) .fail (.headed '!' (by decide) .fail (scans_enterNamed? reader)))
    (.headed 'P' (by decide) (.headed '<' (by decide) (scans_enterNamed? reader) .fail)
      (scans_readFlags? reader))))

theorem readMarked?_named {rest : List Char} (notEqual : ∀ later, rest = '=' :: later → False)
    (notBang : ∀ later, rest = '!' :: later → False) :
    reader.readMarked? ('<' :: rest) = reader.enterNamed? rest := by
  rw [readMarked?, expecting_other (by simp), expecting_other (by simp), expecting_head,
    expecting_other notEqual, expecting_other notBang]

theorem readMarked?_flags {rest : List Char} (notEqual : ∀ later, rest = '=' :: later → False)
    (notBang : ∀ later, rest = '!' :: later → False)
    (notAngle : ∀ later, rest = '<' :: later → False)
    (notNamed : ∀ later, rest = 'P' :: '<' :: later → False) :
    reader.readMarked? rest = reader.readFlags? rest := by
  rw [readMarked?, expecting_other notEqual, expecting_other notBang, expecting_other notAngle]
  by_cases isLetter : ∃ later, rest = 'P' :: later
  · obtain ⟨later, rfl⟩ := isLetter
    have notAngle (rest : List Char) : later = '<' :: rest → False :=
      fun isHead => notNamed rest (by rw [isHead])
    rw [expecting_head, expecting_other notAngle, readFlags?_invalid]
  · rw [expecting_other (not_exists.1 isLetter)]

theorem readGroup?_eq (text : List Char) :
    reader.readGroup? text =
      expecting '?' reader.readMarked? (fun rest => some (reader.enter true reader.flags, rest))
        (skipSpace reader.flags.verbose text) := by
  rw [readGroup?]
  split
  · next isMarked => rw [isMarked]; rfl
  · next isMarked => rw [isMarked]; rfl
  · next isMarked => rw [isMarked]; rfl
  · next isMarked => rw [isMarked]; rfl
  · next isMarked => rw [isMarked]; rfl
  · next notEqual notBang isMarked =>
      rw [isMarked, expecting_head, readMarked?_named reader notEqual notBang]
  · next notEqual notBang _ _ notNamed notAngle isMarked =>
      rw [isMarked, expecting_head, readMarked?_flags reader notEqual notBang notAngle notNamed]
  · next notMarked => rw [expecting_other notMarked]

theorem scans_readGroup? : Scans IsPast reader.readGroup? :=
  ((Scans.headed '?' (by decide) (scans_readMarked? reader) (.pure _)).afterSpace _
    fun _ past => past).of_eq (readGroup?_eq reader)

/-- Repeat the last term, and pass over the mark of a reluctant repetition. -/
theorem scans_repeat? (least : Nat) (most : Option Nat) : Scans IsPast fun rest =>
    (reader.repeat? least most).bind fun reader => some (reader, skipReluctance rest) :=
  .lift _ fun reader => scans_skipReluctance.filterMap fun _ => some reader

theorem scans_counted : Scans IsPast (reader.readConstruct? '\x7b') := by
  have counted := (scans_readBounds? reader.flags.verbose).bind fun bounds =>
    Scans.lift (reader.repeat? bounds.1 bounds.2) fun repeated =>
      (scans_skipReluctance.filterMap fun _ => some repeated).afterSpace reader.flags.verbose
        fun _ past => past
  refine counted.of_eq fun rest => ?_
  simp only [readConstruct?]
  cases readBounds? reader.flags.verbose rest with
  | none => rfl
  | some found => rfl

/-- What is not an escape is read from left to right. -/
theorem scans_readConstruct? {character : Char} (notEscape : character ≠ '\\') :
    Scans IsPast (reader.readConstruct? character) := by
  by_cases isCount : character = '\x7b'
  · subst isCount
    exact scans_counted reader
  · unfold readConstruct?
    split
    · exact scans_readGroup? reader
    · exact .lift _ fun reader => .pure reader
    · exact .pure _
    · exact Bracket.scans_read?.filterMap fun part =>
        some (reader.push (.oneOf part.characters part.depth))
    · exact scans_repeat? reader 0 (some 1)
    · exact scans_repeat? reader 0 none
    · exact scans_repeat? reader 1 none
    · contradiction
    · contradiction
    · exact .lift _ fun term => .pure (reader.push term)
    · exact .pure _
    · exact .pure _
    · exact .lift _ fun term => .pure (reader.push term)

theorem scans_escape :
    Scans (Escape.IsDangling reader.flags.verbose) (reader.readConstruct? '\\') := by
  refine ((Escape.scans_read? reader.flags).filterMap fun escape =>
    (escapeTerm? reader.flags escape).map reader.push).of_eq fun rest => ?_
  simp only [readConstruct?]
  cases Escape.read? reader.flags rest with
  | none => rfl
  | some found =>
      simp only [Option.bind_eq_bind, Option.bind_some]
      cases escapeTerm? reader.flags found.1 <;> rfl

end Reading

section Step

variable {reader next : Reader} {outer : GroupFrame} {character : Char} {rest remaining : List Char}

/-- What one step does: it passes over what means nothing, or reads a construct. -/
theorem step_eq_inl :
    reader.step character rest = some (.inl (next, remaining)) ↔
      if reader.flags.verbose && (Text.isBlank character || character == '#') then
        next = reader ∧ remaining = skipComments false (character :: rest)
      else reader.readConstruct? character rest = some (next, remaining) := by
  rw [step]
  split
  · simp [eq_comm]
  · simp

theorem step_construct (notBlank : Text.isBlank character = false)
    (notComment : character ≠ '#') :
    reader.step character rest = (reader.readConstruct? character rest).map .inl := by
  rw [step, if_neg (isMeant notBlank notComment)]

theorem step_suffix (stepped : reader.step character rest = some (.inl (next, remaining))) :
    remaining <:+ rest := by
  rw [step_eq_inl] at stepped
  split at stepped
  · next isSpace =>
      rw [stepped.2, skipComments_cons (Bool.and_eq_true_iff.1 isSpace).2]
      exact skipComments_suffix _ rest
  · by_cases isEscape : character = '\\'
    · subst isEscape
      exact (scans_escape reader).suffix stepped
    · exact (scans_readConstruct? reader isEscape).suffix stepped

/-- Inside of one more group, a step does as before, unless it closes a group when no other
one is open. -/
theorem step_within (isInside : character = ')' → reader.frames ≠ []) :
    (reader.within outer).step character rest =
      (reader.step character rest).map (Sum.map (withinFound outer) id) := by
  simp only [step, within_flags, readConstruct?_within isInside, Option.map_map,
    apply_ite (Option.map (Sum.map (withinFound outer) id)), Option.map_some]
  rfl

theorem flags_of_escape (isRead : reader.readConstruct? '\\' rest = some (next, remaining)) :
    next.flags = reader.flags := by
  simp only [readConstruct?, Option.bind_eq_bind, Option.bind_eq_some_iff] at isRead
  obtain ⟨found, -, term, -, equal⟩ := isRead
  cases equal
  rfl

/-- Where a step in front of the closing parenthesis leaves off. -/
theorem step_append
    (stepped : reader.step character (rest ++ closing) = some (.inl (next, remaining))) :
    IsPast remaining ∨
      (next.flags = reader.flags ∧ ∃ after, remaining = '\x7b' :: after ++ closing ∧
        skipSpace reader.flags.verbose after = []) ∨
      ∃ own, remaining = own ++ closing ∧ reader.step character rest = some (.inl (next, own)) := by
  rw [step_eq_inl] at stepped
  simp only [step_eq_inl]
  split at stepped
  · next isSpace =>
      obtain ⟨rfl, rfl⟩ := stepped
      have isSkipped := (Bool.and_eq_true_iff.1 isSpace).2
      simp only [skipComments_cons isSkipped, isSpace, if_true]
      rcases skipComments_append (!Text.isBlank character) rest with kept | gone
      · exact .inr (.inr ⟨_, kept, trivial, rfl⟩)
      · rw [gone]
        exact .inl isPast_nil
  · next isMeant =>
      simp only [isMeant]
      by_cases isEscape : character = '\\'
      · subst isEscape
        rcases (scans_escape reader).own stepped with (past | dangling) | own
        · exact .inl past
        · exact .inr (.inl ⟨flags_of_escape stepped, dangling⟩)
        · exact .inr (.inr own)
      · exact ((scans_readConstruct? reader isEscape).own stepped).imp_right .inr

end Step

section Run

variable {reader final : Reader} {outer : GroupFrame} {text : List Char}

/-- No group is closed once the closing parenthesis has been read. -/
theorem frames_of_scan_isPast (past : IsPast text)
    (ends : scan Reader.step 0 reader text = some (.inl final)) :
    final.frames = reader.frames := by
  rcases List.suffix_cons_iff.1 past with rfl | isEmpty
  · obtain ⟨assertion, stepped⟩ : ∃ assertion, reader.step '$' [] =
        some (.inl (reader.push (.assertion assertion), [])) :=
      ⟨_, step_construct (by decide) (by decide)⟩
    rw [scan_cons stepped List.suffix_rfl] at ends
    cases ends
    rfl
  · rw [List.suffix_nil.1 isEmpty] at ends
    cases ends
    rfl

/-- A brace after which nothing is left of the source does not begin a count. -/
theorem scan_dangling {after : List Char} (isSpace : skipSpace reader.flags.verbose after = []) :
    scan Reader.step 0 reader ('\x7b' :: after ++ closing) = none := by
  have noCount : readBounds? reader.flags.verbose (after ++ closing) = none := by
    cases isVerbose : reader.flags.verbose with
    | false =>
        rw [isVerbose] at isSpace
        rw [show after = [] from isSpace]
        rfl
    | true =>
        rw [isVerbose] at isSpace
        have isSpace : skipComments false after = [] := isSpace
        rcases skipComments_append false after with kept | gone
        · rw [isSpace] at kept
          simp only [readBounds?, readCount?, kept, if_true]
          rfl
        · simp only [readBounds?, readCount?, gone, if_true]
          rfl
  have refused : reader.step '\x7b' (after ++ closing) = none := by
    rw [step_construct (by decide) (by decide)]
    simp only [readConstruct?, noCount]
    rfl
  simp only [List.cons_append, scan, refused]

/-- A source that is read inside of a group as a complete pattern is read on its own up to
the closing parenthesis, unless it closes the group itself. -/
theorem exists_own_scan (keeps : ¬ ClosesUnopened reader text)
    (ends : scan Reader.step 0 (reader.within outer) (text ++ closing) = some (.inl final))
    (isComplete : final.frames = []) :
    ∃ own, scan Reader.step 0 reader text = some (.inl own) ∧
      scan Reader.step 0 (own.within outer) closing = some (.inl final) := by
  -- A step may take several characters, so what it leaves is shorter but not the tail.
  induction isLong : text.length using Nat.strongRecOn generalizing reader text with
  | ind length ih =>
      cases text with
      | nil => exact ⟨reader, rfl, ends⟩
      | cons first text =>
          have isInside : first = ')' → reader.frames ≠ [] := by
            rintro rfl isOutside
            exact keeps (.here isOutside)
          rw [List.cons_append] at ends
          cases stepped : reader.step first (text ++ closing) with
          | none =>
              have refused : (reader.within outer).step first (text ++ closing) = none := by
                rw [step_within isInside, stepped]
                rfl
              simp [scan, refused] at ends
          | some found =>
              obtain ⟨next, remaining⟩ | ⟨impossible, -⟩ := found
              · have within : (reader.within outer).step first (text ++ closing) =
                    some (.inl (next.within outer, remaining)) := by
                  rw [step_within isInside, stepped]
                  rfl
                rw [scan_cons within (step_suffix within)] at ends
                rcases step_append stepped with past | ⟨sameFlags, after, rfl, isSpace⟩ |
                  ⟨own, rfl, ownStepped⟩
                · -- The group around the source stays open, so the whole is not complete.
                  rw [frames_of_scan_isPast past ends] at isComplete
                  exact (within_frames_ne_nil isComplete).elim
                · rw [← sameFlags] at isSpace
                  rw [scan_dangling (by exact isSpace)] at ends
                  contradiction
                · have suffix := step_suffix ownStepped
                  have shorter : own.length < length := by
                    have := suffix.length_le
                    simp only [List.length_cons] at isLong
                    omega
                  obtain ⟨last, ownEnds, ends⟩ := ih own.length shorter
                    (fun closes => keeps (.later ownStepped closes)) ends rfl
                  exact ⟨last, by rw [scan_cons ownStepped suffix, ownEnds], ends⟩
              · exact impossible.elim

/-- A source that is read to its end closes no group that is not open. -/
theorem not_closesUnopened (ends : scan Reader.step 0 reader text = some (.inl final)) :
    ¬ ClosesUnopened reader text := by
  intro closes
  induction closes with
  | @here reader rest isOutside =>
      have refused : reader.step ')' rest = none := by
        rw [step_construct (by decide) (by decide)]
        simp only [readConstruct?, leave?, isOutside]
        rfl
      simp [scan, refused] at ends
  | later stepped closes ih =>
      rw [scan_cons stepped (step_suffix stepped)] at ends
      exact ih ends

end Run

end Screenplay.Pattern.Reader
