import Screenplay.Pattern.Escape
import Screenplay.Proofs.Pattern.Scanning

/-!
# Escapes in front of a closing parenthesis

An escape is read in front of the closing parenthesis as it is read without it.  The
exception is a word boundary before a brace at the end of a source.  Such an escape is
refused where nothing stands after the brace, and in front of the parenthesis the brace
is left to be read as a count.
-/

namespace Screenplay.Pattern.Escape

variable (flags : Flags) (verbose : Bool)

theorem scans_readCode? (digits : Nat) : Scans IsPast (readCode? verbose digits) := by
  have braced := (scans_readBraced? verbose false).bind fun spelled =>
    Scans.lift (Text.readHex? spelled) fun code =>
      Scans.lift (charOfCode? code) fun character =>
        (scans_skipSpace verbose).filterMap fun _ => some (Escape.literal character false)
  have counted := (scans_readHexDigits? verbose digits).bind fun spelled =>
    Scans.lift (Text.readHex? spelled) fun code =>
      Scans.lift (charOfCode? code) fun character =>
        .pure (Escape.literal character (digits == 2))
  refine ((Scans.headed '\x7b' (by decide) braced counted).afterSpace verbose
    fun _ past => past).of_eq fun text => ?_
  rw [readCode?]
  split
  · next rest isBrace =>
      rw [isBrace, expecting_head]
      rfl
  · next isOther =>
      rw [expecting_other isOther]
      rfl

/-- The class of a property whose name has been read. -/
def propertyClass? (flags : Flags) (negated : Bool) (name : List Char) : Option Escape := do
  let (property, negatedByName) ← propertyOfName? name
  let characters ← negate? flags (negated != negatedByName)
    (regardingCase flags (.named property))
  if flags.unicode then some (.oneOf characters) else none

theorem readProperty?_eq (negated : Bool) (text : List Char) :
    readProperty? flags negated text =
      (expecting '\x7b' (readBraced? flags.verbose false)
        (expecting '\\' (fun _ => none) fun text =>
          match text with
          | [] => none
          | letter :: rest => some ([letter], skipSpace flags.verbose rest))
        (skipSpace flags.verbose text)).bind
          fun found => (propertyClass? flags negated found.1).map (·, found.2) := by
  -- The class depends on the name alone, so that it can be made once the name is read.
  have afterName (found : List Char × List Char) : (do
      let (property, negatedByName) ← propertyOfName? found.1
      let characters ← negate? flags (negated != negatedByName)
        (regardingCase flags (.named property))
      if flags.unicode then some (Escape.oneOf characters, found.2) else none) =
        (propertyClass? flags negated found.1).map (·, found.2) := by
    simp only [propertyClass?, Option.map_bind, Option.bind_eq_bind, Function.comp_def]
    congr 1
    funext property
    congr 1
    funext characters
    cases flags.unicode <;> rfl
  simp only [readProperty?, ← afterName]
  split
  · next isEmpty =>
      rw [isEmpty]
      rfl
  · next rest isBraced =>
      rw [isBraced, expecting_head]
      rfl
  · next rest isEscape =>
      rw [isEscape]
      rfl
  · next letter rest notBraced notEscape isLetter =>
      rw [isLetter, expecting_other fun _ equal => notBraced (List.cons.inj equal).1,
        expecting_other fun _ equal => notEscape (List.cons.inj equal).1]
      rfl

theorem scans_readProperty? (negated : Bool) :
    Scans IsPast (readProperty? flags negated) := by
  refine Scans.of_eq (Scans.filterMap (Scans.afterSpace flags.verbose ?_ fun _ past => past) _)
    (readProperty?_eq flags negated)
  refine .headed '\x7b' (by decide) (scans_readBraced? _ _) (.headed '\\' (by decide) .fail ?_)
  refine .next rfl ?_ fun letter => ?_
  · intro name rest found
    cases found
    exact skipSpace_suffix _ ['$']
  · exact (scans_skipSpace flags.verbose).filterMap fun _ => some [letter]

/-- A text whose closing parenthesis has been read, or one that starts with a brace which
is not closed. -/
def IsDangling (verbose : Bool) (rest : List Char) : Prop :=
  IsPast rest ∨ ∃ after, rest = '\x7b' :: after ++ closing ∧ skipSpace verbose after = []

/-- The name in braces of an assertion about one side of a word. -/
def wordSide? (ascii : Bool) (name : List Char) : Option Escape :=
  match String.ofList name with
  | "start" => some (.assertion (.wordStart ascii))
  | "end" => some (.assertion (.wordEnd ascii))
  | "start-half" => some (.assertion (.wordStartHalf ascii))
  | "end-half" => some (.assertion (.wordEndHalf ascii))
  | _ => none

theorem wordSide?_isAssertion {ascii : Bool} {name : List Char} {escape : Escape}
    (isSide : wordSide? ascii name = some escape) :
    ∃ assertion, escape = .assertion assertion := by
  rw [wordSide?] at isSide
  split at isSide
  all_goals cases isSide <;> exact ⟨_, rfl⟩

theorem readWordBoundary?_plain {text : List Char}
    (isPlain : ∀ after, text = '\x7b' :: after → False) :
    readWordBoundary? flags text = some (.assertion (.wordBoundary !flags.unicode), text) := by
  rw [readWordBoundary?]
  exact isPlain

theorem readWordBoundary?_brace {rest later : List Char} {first : Char}
    (isNext : skipSpace flags.verbose rest = first :: later) :
    readWordBoundary? flags ('\x7b' :: rest) =
      if first.isAlpha || first == '-' then
        (readBraced? flags.verbose false rest).bind fun found =>
          (wordSide? (!flags.unicode) found.1).map (·, found.2)
      else some (.assertion (.wordBoundary !flags.unicode), '\x7b' :: rest) := by
  simp only [readWordBoundary?, isNext]
  split
  · congr 1
    funext found
    rw [wordSide?]
    split <;> simp_all
  · rfl

/-- A word boundary is read as it stands, or as an assertion with a name in braces. -/
theorem readWordBoundary?_cases {text rest : List Char} {escape : Escape}
    (found : readWordBoundary? flags text = some (escape, rest)) :
    (escape = .assertion (.wordBoundary !flags.unicode) ∧ rest = text) ∨
      ∃ after name, text = '\x7b' :: after ∧
        readBraced? flags.verbose false after = some (name, rest) ∧
        wordSide? (!flags.unicode) name = some escape := by
  by_cases isBraced : ∃ after, text = '\x7b' :: after
  · obtain ⟨after, rfl⟩ := isBraced
    cases isNext : skipSpace flags.verbose after with
    | nil => simp [readWordBoundary?, isNext] at found
    | cons first later =>
        rw [readWordBoundary?_brace flags isNext] at found
        split at found
        · obtain ⟨⟨name, between⟩, isRead, made⟩ := Option.bind_eq_some_iff.1 found
          obtain ⟨side, isSide, equal⟩ := Option.map_eq_some_iff.1 made
          cases equal
          exact .inr ⟨after, name, rfl, isRead, isSide⟩
        · cases found
          exact .inl ⟨rfl, rfl⟩
  · rw [readWordBoundary?_plain flags (not_exists.1 isBraced)] at found
    cases found
    exact .inl ⟨rfl, rfl⟩

theorem readWordBoundary?_isAssertion {text rest : List Char} {escape : Escape}
    (found : readWordBoundary? flags text = some (escape, rest)) :
    ∃ assertion, escape = .assertion assertion := by
  rcases readWordBoundary?_cases flags found with ⟨rfl, -⟩ | ⟨after, name, -, -, isSide⟩
  · exact ⟨_, rfl⟩
  · exact wordSide?_isAssertion isSide

theorem scans_readWordBoundary? :
    Scans (IsDangling flags.verbose) (readWordBoundary? flags) where
  suffix := by
    intro text value rest found
    rcases readWordBoundary?_cases flags found with ⟨-, rfl⟩ | ⟨after, name, rfl, isRead, -⟩
    · exact List.suffix_rfl
    · exact (readBraced?_suffix isRead).trans (List.suffix_cons _ _)
  own := by
    intro text value rest found
    by_cases isBraced : ∃ after, text = '\x7b' :: after
    · obtain ⟨after, rfl⟩ := isBraced
      rw [List.cons_append] at found
      rcases skipSpace_append flags.verbose after with kept | gone
      · cases isNext : skipSpace flags.verbose after with
        | nil =>
            -- The parenthesis does not begin a name, so that the brace is left for a count.
            rw [isNext] at kept
            rw [readWordBoundary?_brace flags kept] at found
            cases found
            exact .inl (.inr ⟨after, rfl, isNext⟩)
        | cons first later =>
            rw [isNext] at kept
            rw [readWordBoundary?_brace flags kept] at found
            rw [readWordBoundary?_brace flags isNext]
            split at found
            · next isName =>
                rw [if_pos isName]
                have named := (scans_readBraced? flags.verbose false).filterMap
                  (wordSide? !flags.unicode)
                exact (named.own found).imp_left .inl
            · next isCount =>
                cases found
                exact .inr ⟨_, rfl, if_neg isCount⟩
      · simp [readWordBoundary?, gone] at found
    · rw [readWordBoundary?_plain flags
        (append_closing_ne_cons (by decide) (not_exists.1 isBraced))] at found
      cases found
      exact .inr ⟨text, rfl, readWordBoundary?_plain flags (not_exists.1 isBraced)⟩

/-- An escape that does not stand for a word boundary. -/
theorem scans_read?_cons {letter : Char} (isOther : letter ≠ 'b') :
    Scans IsPast fun rest => read? flags (letter :: rest) := by
  simp only [read?]
  cases classOfLetter? flags letter with
  | some characters =>
      cases characters with
      | none => exact .fail
      | some characters => exact .pure (Escape.oneOf characters)
  | none =>
      simp only
      cases isEscapable letter with
      | true => exact .pure (Escape.literal letter false)
      | false =>
          simp only [Bool.false_eq_true, if_false]
          split
          · exact scans_readCode? flags.verbose 2
          · exact scans_readCode? flags.verbose 4
          · exact scans_readCode? flags.verbose 8
          · exact scans_readProperty? flags false
          · exact scans_readProperty? flags true
          -- The other letters take no more of the text.
          iterate 8 exact .pure _
          · contradiction
          iterate 3 exact .pure _
          · exact .fail

theorem scans_read? : Scans (IsDangling flags.verbose) (read? flags) := by
  refine .next rfl ?_ fun letter => ?_
  · intro value rest found
    have isLiteral : read? flags closing = some (.literal ')' false, ['$']) := rfl
    rw [isLiteral] at found
    cases found
    exact .inl List.suffix_rfl
  · by_cases isBoundary : letter = 'b'
    · subst isBoundary
      exact scans_readWordBoundary? flags
    · exact (scans_read?_cons flags isBoundary).mono fun _ => .inl

/-- An escape that stands for characters, as it has to in a class. -/
def characters? : Escape → Option Escape
  | .assertion _ => none
  | escape => some escape

theorem scans_characters? : Scans IsPast fun text =>
    (read? flags text).bind fun found => (characters? found.1).map (·, found.2) := by
  refine .next rfl ?_ fun letter => ?_
  · intro value rest found
    cases found
    exact List.suffix_rfl
  · by_cases isBoundary : letter = 'b'
    · refine Scans.fail.of_eq fun rest => Option.bind_eq_none_iff.2 fun found isRead => ?_
      subst isBoundary
      obtain ⟨assertion, isAssertion⟩ := readWordBoundary?_isAssertion flags isRead
      rw [isAssertion]
      rfl
    · exact (scans_read?_cons flags isBoundary).filterMap characters?

end Screenplay.Pattern.Escape
