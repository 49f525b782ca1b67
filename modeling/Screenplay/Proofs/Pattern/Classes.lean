import Screenplay.Pattern.Bracket
import Screenplay.Proofs.Pattern.Escapes

/-!
# Classes in front of a closing parenthesis

A bracketed class ends with a bracket, which does not stand after the source.  A class
that is read in front of the closing parenthesis is therefore the class that is read
without it.  Each step through a class reads what it reads without the parenthesis, unless
nothing of the source is left that means anything.
-/

namespace Screenplay.Pattern.Bracket

open Escape

variable {flags : Flags} {verbose : Bool}

/-- A text of which no more than the closing parenthesis and what stands after it means
anything. -/
def IsSpent (verbose : Bool) (rest : List Char) : Prop :=
  skipSpace verbose rest <:+ closing

theorem IsSpent.of_isPast (rest : List Char) (past : IsPast rest) : IsSpent verbose rest :=
  (skipSpace_suffix _ rest).trans (past.trans (List.suffix_cons ')' ['$']))

/-- The named class at the head of a text, and whether it is negated. -/
def readNamed? (text : List Char) : Option ((CharClass × Bool) × List Char) :=
  (readAsciiClass? text).map fun found => ((found.1, found.2.1), found.2.2)

/-- The named class that is read once it is known whether it is negated. -/
def namedClass? (negated : Bool) (start : List Char) : Option ((CharClass × Bool) × List Char) :=
  match start.dropWhile (· != ':') with
  | ':' :: ']' :: rest =>
      (asciiClass? (start.takeWhile (· != ':'))).map fun characters =>
        ((characters, negated), rest)
  | _ => none

theorem namedClass?_eq (negated : Bool) (start : List Char) :
    (match start.dropWhile (· != ':') with
      | ':' :: ']' :: rest =>
          (asciiClass? (start.takeWhile (· != ':'))).map fun characters =>
            (characters, negated, rest)
      | _ => none).map
        (fun found : CharClass × Bool × List Char => ((found.1, found.2.1), found.2.2)) =
      namedClass? negated start := by
  rw [namedClass?]
  split
  · rw [Option.map_map]
    rfl
  · rfl

theorem readNamed?_caret (start : List Char) :
    readNamed? (':' :: '^' :: start) = namedClass? true start :=
  namedClass?_eq true start

theorem readNamed?_colon {start : List Char} (isOther : ∀ rest, start = '^' :: rest → False) :
    readNamed? (':' :: start) = namedClass? false start := by
  simp only [readNamed?, readAsciiClass?]
  exact namedClass?_eq false start

theorem readNamed?_other {text : List Char} (isOther : ∀ rest, text = ':' :: rest → False) :
    readNamed? text = none := by
  rw [readNamed?, readAsciiClass?]
  · rfl
  · exact isOther

theorem namedClass?_suffix {negated : Bool} {start rest : List Char} {named : CharClass × Bool}
    (isNamed : namedClass? negated start = some (named, rest)) : rest <:+ start := by
  rw [namedClass?] at isNamed
  split at isNamed
  · next later isClosed =>
      obtain ⟨characters, -, equal⟩ := Option.map_eq_some_iff.1 isNamed
      cases equal
      have inside : ':' :: ']' :: rest <:+ start := isClosed ▸ List.dropWhile_suffix _
      exact ((List.suffix_cons _ _).trans (List.suffix_cons _ _)).trans inside
  · contradiction

theorem namedClass?_append (negated : Bool) (start : List Char) :
    namedClass? negated (start ++ closing) = (namedClass? negated start).map withClosing := by
  rcases dropWhile_append_closing_of_all (by decide : closing.dropWhile (· != ':') = []) start with
    ⟨isAbsent, isAbsentInContext⟩ | ⟨colon, later, isLeft, kept, same⟩
  · rw [namedClass?, namedClass?, isAbsent, isAbsentInContext]
    rfl
  · rw [namedClass?, namedClass?, isLeft, kept, same]
    by_cases isClosed : ∃ rest, colon :: later = ':' :: ']' :: rest
    · obtain ⟨rest, isClosed⟩ := isClosed
      cases isClosed
      simp only [List.cons_append, Option.map_map]
      rfl
    · have isOpen (rest : List Char) :
          colon :: (later ++ closing) = ':' :: ']' :: rest → False := by
        intro equal
        obtain ⟨rfl, isBracket⟩ := List.cons.inj equal
        refine append_closing_ne_cons (by decide) (fun rest isHead => ?_) _ isBracket
        exact isClosed ⟨rest, by rw [isHead]⟩
      split
      · next rest equal => exact (isOpen rest equal).elim
      · split
        · next rest equal => exact (isClosed ⟨rest, equal⟩).elim
        · rfl

theorem readNamed?_suffix {text rest : List Char} {named : CharClass × Bool}
    (found : readNamed? text = some (named, rest)) : rest <:+ text := by
  by_cases isColon : ∃ start, text = ':' :: start
  · obtain ⟨start, rfl⟩ := isColon
    refine List.IsSuffix.trans ?_ (List.suffix_cons _ _)
    by_cases isCaret : ∃ rest, start = '^' :: rest
    · obtain ⟨later, rfl⟩ := isCaret
      rw [readNamed?_caret] at found
      exact (namedClass?_suffix found).trans (List.suffix_cons _ _)
    · rw [readNamed?_colon (not_exists.1 isCaret)] at found
      exact namedClass?_suffix found
  · rw [readNamed?_other (not_exists.1 isColon)] at found
    contradiction

theorem readNamed?_append (text : List Char) :
    readNamed? (text ++ closing) = (readNamed? text).map withClosing := by
  by_cases isColon : ∃ start, text = ':' :: start
  · obtain ⟨start, rfl⟩ := isColon
    rw [List.cons_append]
    by_cases isCaret : ∃ rest, start = '^' :: rest
    · obtain ⟨rest, rfl⟩ := isCaret
      rw [List.cons_append, readNamed?_caret, readNamed?_caret]
      exact namedClass?_append true rest
    · rw [readNamed?_colon (not_exists.1 isCaret),
        readNamed?_colon (append_closing_ne_cons (by decide) (not_exists.1 isCaret))]
      exact namedClass?_append false start
  · rw [readNamed?_other (not_exists.1 isColon),
      readNamed?_other (append_closing_ne_cons (by decide) (not_exists.1 isColon))]
    rfl

theorem readHyphens_hyphen {items : Items} {rounds : Nat} {text rest : List Char}
    (isHyphen : skipSpace verbose text = '-' :: rest) :
    readHyphens verbose items (rounds + 1) text =
      readHyphens verbose (items.addClass (.single '-')) rounds rest := by
  rw [readHyphens, isHyphen]
  rfl

theorem readHyphens_other {items : Items} {rounds : Nat} {text : List Char}
    (isOther : ∀ rest, skipSpace verbose text = '-' :: rest → False) :
    readHyphens verbose items (rounds + 1) text = (items, skipSpace verbose text) := by
  rw [readHyphens]
  split
  · next rest isHyphen => exact (isOther rest isHyphen).elim
  · rfl

theorem readHyphens_suffix (verbose : Bool) (items : Items) (rounds : Nat) (text : List Char) :
    (readHyphens verbose items rounds text).2 <:+ text := by
  induction rounds generalizing items text with
  | zero => exact List.suffix_rfl
  | succ rounds ih =>
      rw [readHyphens]
      split
      · next rest isHyphen =>
          have inside : '-' :: rest <:+ text := isHyphen ▸ skipSpace_suffix _ text
          exact ((ih _ _).trans (List.suffix_cons _ _)).trans inside
      · exact skipSpace_suffix _ text

/-- The hyphens at the head of a class are read in as many rounds as there are
characters. -/
theorem readHyphens_append (verbose : Bool) (items : Items) {rounds : Nat} {text : List Char}
    (enough : text.length < rounds) :
    readHyphens verbose items (rounds + closing.length) (text ++ closing) =
        withClosing (readHyphens verbose items rounds text) ∨
      (readHyphens verbose items (rounds + closing.length) (text ++ closing)).2 = [] := by
  induction rounds generalizing items text with
  | zero => contradiction
  | succ rounds ih =>
      rw [Nat.succ_add]
      rcases skipSpace_append verbose text with kept | gone
      · by_cases isHyphen : ∃ rest, skipSpace verbose text = '-' :: rest
        · obtain ⟨rest, isHyphen⟩ := isHyphen
          have shorter := (skipSpace_suffix verbose text).length_le
          rw [isHyphen] at kept shorter
          rw [readHyphens_hyphen kept, readHyphens_hyphen isHyphen]
          rw [List.length_cons] at shorter
          exact ih (items.addClass (.single '-')) (by omega)
        · have isOther := append_closing_ne_cons (by decide) (not_exists.1 isHyphen)
          rw [readHyphens_other (by rwa [kept]), readHyphens_other (not_exists.1 isHyphen), kept]
          exact .inl rfl
      · rw [readHyphens_other (by simp [gone]), gone]
        exact .inr rfl

theorem scans_readHyphens (verbose : Bool) :
    Scans IsPast fun start => some (readHyphens verbose {} (start.length + 1) start) := by
  refine .of_total (fun start => readHyphens_suffix verbose {} _ start) fun start => ?_
  rw [List.length_append, Nat.add_right_comm]
  exact readHyphens_append verbose {} (Nat.lt_succ_self _)

/-- The head of a class after its hyphens. -/
def classHead? (outer : Items) (negated : Bool) (items : Items) :
    List Char → Option ((Items × Frame) × List Char)
  | [] => none
  | first :: rest =>
      if items.count = 0 ∧ first = ']' then
        some ((items.addClass (.single ']'), ⟨outer, negated, none⟩), rest)
      else
        some ((items, ⟨outer, negated, none⟩), first :: rest)

theorem isSpent_closing : IsSpent verbose closing :=
  skipSpace_suffix _ closing

theorem scans_classHead? (verbose : Bool) (outer items : Items) (negated : Bool) :
    Scans (IsSpent verbose) (classHead? outer negated items) where
  suffix := by
    intro text value rest found
    cases text with
    | nil => contradiction
    | cons first text =>
        rw [classHead?] at found
        split at found
        · cases found
          exact List.suffix_cons _ _
        · cases found
          exact List.suffix_rfl
  own := by
    intro text value rest found
    cases text with
    | nil =>
        rw [List.nil_append, closing, classHead?, if_neg (by simp)] at found
        cases found
        exact .inl isSpent_closing
    | cons first text =>
        rw [List.cons_append, classHead?] at found
        rw [classHead?]
        split at found
        · next isBracket =>
            cases found
            exact .inr ⟨text, rfl, if_pos isBracket⟩
        · next isOther =>
            cases found
            exact .inr ⟨first :: text, rfl, if_neg isOther⟩

theorem classHead?_eq (outer items : Items) (negated : Bool) (rest : List Char) :
    (match items.count, rest with
      | _, [] => none
      | 0, ']' :: rest =>
          some (items.addClass (.single ']'), (⟨outer, negated, none⟩ : Frame), rest)
      | _, rest => some (items, ⟨outer, negated, none⟩, rest)).map
        (fun found : Items × Frame × List Char => ((found.1, found.2.1), found.2.2)) =
      classHead? outer negated items rest := by
  cases rest with
  | nil => rfl
  | cons first rest =>
      rw [classHead?]
      split
      · contradiction
      · next isEmpty isBracket =>
          cases isBracket
          rw [if_pos ⟨isEmpty, rfl⟩]
          rfl
      · next isOther =>
          rw [if_neg fun both => isOther rest both.1 (by rw [both.2])]
          rfl

theorem openClass?_eq (outer : Items) (text : List Char) :
    (openClass? flags outer text).map (fun found => ((found.1, found.2.1), found.2.2)) =
      expecting '^' (fun start =>
          (some (readHyphens flags.verbose {} (start.length + 1) start)).bind fun found =>
            classHead? outer true found.1 found.2)
        (fun start =>
          (some (readHyphens flags.verbose {} (start.length + 1) start)).bind fun found =>
            classHead? outer false found.1 found.2)
        (skipSpace flags.verbose text) := by
  by_cases isCaret : ∃ rest, skipSpace flags.verbose text = '^' :: rest
  · obtain ⟨rest, isCaret⟩ := isCaret
    rw [isCaret, expecting_head]
    simp only [openClass?, isCaret]
    exact classHead?_eq outer _ true _
  · have isOther (rest : List Char) : skipSpace flags.verbose text = '^' :: rest → False :=
      not_exists.1 isCaret rest
    rw [expecting_other isOther]
    simp only [openClass?]
    exact classHead?_eq outer _ false _

theorem scans_openClass? (flags : Flags) (outer : Items) :
    Scans (IsSpent flags.verbose) fun text =>
      (openClass? flags outer text).map fun found => ((found.1, found.2.1), found.2.2) := by
  have head (negated : Bool) := (scans_readHyphens flags.verbose).andThen
    IsSpent.of_isPast fun items => scans_classHead? flags.verbose outer items negated
  exact ((Scans.headed '^' (by decide) (head true) (head false)).afterSpace _
    IsSpent.of_isPast).of_eq (openClass?_eq outer)

theorem readItem?_other {first : Char} (isOther : first ≠ '\\') (rest : List Char) :
    readItem? flags (first :: rest) = some (.literal first false, rest) := by
  rw [readItem?]
  exact isOther

theorem scans_readItem?_cons (flags : Flags) (first : Char) :
    Scans IsPast fun rest => (readItem? flags (first :: rest)).bind fun found =>
      (characters? found.1).map (·, found.2) := by
  by_cases isEscape : first = '\\'
  · subst isEscape
    exact scans_characters? flags
  · refine (Scans.pure (Escape.literal first false)).of_eq fun rest => ?_
    rw [readItem?_other isEscape]
    rfl

theorem scans_readItem? (flags : Flags) : Scans IsPast fun text =>
    (readItem? flags text).bind fun found => (characters? found.1).map (·, found.2) := by
  refine .next rfl ?_ (scans_readItem?_cons flags)
  intro value rest found
  cases found
  exact List.suffix_rfl

/-- The class of an item that is not the beginning of a range. -/
def alone? (flags : Flags) : Escape → Option CharClass
  | .literal character _ =>
      if literalIsAllowed flags character then some (.single character) else none
  | .oneOf characters => some characters
  | .assertion _ => none

/-- The class of a range. -/
def span? (flags : Flags) : Escape → Escape → Option CharClass
  | .literal low _, .literal high _ =>
      if low ≤ high && literalIsAllowed flags low && literalIsAllowed flags high then
        some (.span low high)
      else
        none
  | _, _ => none

/-- A hyphen before such a character is not the middle of a range. -/
def endsItems (next : Option Char) : Bool :=
  next == some ']' || next == some '-'

theorem endsItems_peekSpace_append (text : List Char) :
    endsItems (peekSpace verbose (text ++ closing)) = endsItems (peekSpace verbose text) := by
  have onHead (text : List Char) : endsItems (text ++ closing).head? = endsItems text.head? := by
    cases text <;> rfl
  cases verbose with
  | false => exact onHead text
  | true =>
      have blanks (text : List Char) : (text ++ closing).dropWhile Text.isBlank =
          text.dropWhile Text.isBlank ++ closing :=
        dropWhile_append_closing (by decide) text
      simp only [peekSpace, if_true, blanks]
      by_cases isComment : ∃ rest, text.dropWhile Text.isBlank = '#' :: rest
      · obtain ⟨rest, isComment⟩ := isComment
        simp only [isComment, List.cons_append, blanks]
        exact onHead _
      · have isOther (rest : List Char) : text.dropWhile Text.isBlank = '#' :: rest → False :=
          not_exists.1 isComment rest
        have isOtherInContext := append_closing_ne_cons (by decide) isOther
        simp only
        exact onHead _

/-- The class that starts with an item, read from what stands after the item. -/
def afterItem? (flags : Flags) (first : Escape) (rest : List Char) :
    Option (CharClass × List Char) :=
  match skipSpace flags.verbose rest with
  | [] => none
  | '-' :: afterHyphen =>
      if endsItems (peekSpace flags.verbose afterHyphen) then
        (alone? flags first).map (·, rest)
      else
        (readItem? flags (skipSpace flags.verbose afterHyphen)).bind fun found =>
          (span? flags first found.1).map (·, found.2)
  | _ => (alone? flags first).map (·, rest)

theorem alone?_eq (first : Escape) (rest : List Char) :
    (match first with
      | .literal character _ =>
          if literalIsAllowed flags character then some (.single character, rest) else none
      | .oneOf characters => some (characters, rest)
      | .assertion _ => none) = (alone? flags first).map (·, rest) := by
  cases first with
  | literal character isByte =>
      simp only [alone?, apply_ite (Option.map _), Option.map_some, Option.map_none]
  | oneOf characters => rfl
  | assertion assertion => rfl

theorem span?_eq (first last : Escape) (rest : List Char) :
    (match first, last with
      | .literal low _, .literal high _ =>
          if low ≤ high && literalIsAllowed flags low && literalIsAllowed flags high then
            some (.span low high, rest)
          else
            none
      | _, _ => none) = (span? flags first last).map (·, rest) := by
  cases first with
  | literal low isByte =>
      cases last with
      | literal high isByte =>
          simp only [span?, apply_ite (Option.map _), Option.map_some, Option.map_none]
      | oneOf characters => rfl
      | assertion assertion => rfl
  | oneOf characters => rfl
  | assertion assertion => rfl

theorem endsItems_eq {γ : Type} (next : Option Char) (single range : γ) :
    (match next with
      | some ']' => single
      | some '-' => single
      | _ => range) = if endsItems next then single else range := by
  split
  · rfl
  · rfl
  · next notBracket notHyphen =>
      have isOther : ¬ endsItems next = true := by
        simp only [endsItems, Bool.or_eq_true, beq_iff_eq]
        exact fun either => either.elim notBracket notHyphen
      rw [if_neg isOther]

section AfterItem

variable {first : Escape} {rest afterHyphen : List Char}

theorem afterItem?_hyphen (isHyphen : skipSpace flags.verbose rest = '-' :: afterHyphen) :
    afterItem? flags first rest =
      if endsItems (peekSpace flags.verbose afterHyphen) then
        (alone? flags first).map (·, rest)
      else
        (readItem? flags (skipSpace flags.verbose afterHyphen)).bind fun found =>
          (span? flags first found.1).map (·, found.2) := by
  rw [afterItem?, isHyphen]
  rfl

theorem afterItem?_other (isMore : skipSpace flags.verbose rest ≠ [])
    (isOther : ∀ afterHyphen, skipSpace flags.verbose rest = '-' :: afterHyphen → False) :
    afterItem? flags first rest = (alone? flags first).map (·, rest) := by
  rw [afterItem?]
  split
  · contradiction
  · next afterHyphen isHyphen => exact (isOther afterHyphen isHyphen).elim
  · rfl

end AfterItem

theorem readRange?_eq (text : List Char) :
    readRange? flags text =
      (readItem? flags text).bind fun found => afterItem? flags found.1 found.2 := by
  simp only [afterItem?, ← alone?_eq, ← span?_eq, ← endsItems_eq]
  rfl

theorem afterItem?_assertion (assertion : Assertion) (rest : List Char) :
    afterItem? flags (.assertion assertion) rest = none := by
  rw [afterItem?]
  split
  · rfl
  · split
    · rfl
    · exact Option.bind_eq_none_iff.2 fun found _ => rfl
  · rfl

/-- Only an item that is not an assertion matters. -/
theorem readRange?_eq_characters (text : List Char) :
    readRange? flags text =
      ((readItem? flags text).bind fun found => (characters? found.1).map (·, found.2)).bind
        fun found => afterItem? flags found.1 found.2 := by
  rw [readRange?_eq, Option.bind_assoc]
  congr 1
  funext found
  obtain ⟨first, rest⟩ := found
  cases first with
  | literal character isByte => rfl
  | oneOf characters => rfl
  | assertion assertion => exact afterItem?_assertion assertion rest

theorem scans_rangeEnd (first : Escape) : Scans IsPast fun rest =>
    (readItem? flags (skipSpace flags.verbose rest)).bind fun found =>
      (span? flags first found.1).map (·, found.2) := by
  have filtered := ((scans_readItem? flags).filterMap (span? flags first)).afterSpace
    flags.verbose fun _ past => past
  refine filtered.of_eq fun text => ?_
  rw [Option.bind_assoc]
  congr 1
  funext found
  obtain ⟨last, rest⟩ := found
  cases last with
  | literal character isByte => rfl
  | oneOf characters => rfl
  | assertion assertion => cases first <;> rfl

theorem scans_afterItem? (first : Escape) :
    Scans (IsSpent flags.verbose) (afterItem? flags first) where
  suffix := by
    intro text value rest found
    rw [afterItem?] at found
    split at found
    · contradiction
    · next afterHyphen isHyphen =>
        split at found
        · obtain ⟨characters, -, equal⟩ := Option.map_eq_some_iff.1 found
          cases equal
          exact List.suffix_rfl
        · have inside : '-' :: afterHyphen <:+ text := isHyphen ▸ skipSpace_suffix _ text
          exact ((scans_rangeEnd first).suffix found).trans
            ((List.suffix_cons _ _).trans inside)
    · obtain ⟨characters, -, equal⟩ := Option.map_eq_some_iff.1 found
      cases equal
      exact List.suffix_rfl
  own := by
    intro text value rest found
    rcases skipSpace_append flags.verbose text with kept | gone
    · by_cases isHyphen : ∃ afterHyphen, skipSpace flags.verbose text = '-' :: afterHyphen
      · obtain ⟨afterHyphen, isHyphen⟩ := isHyphen
        rw [isHyphen, List.cons_append] at kept
        rw [afterItem?_hyphen kept, endsItems_peekSpace_append] at found
        rw [afterItem?_hyphen isHyphen]
        split at found
        · next ends =>
            obtain ⟨characters, isAlone, equal⟩ := Option.map_eq_some_iff.1 found
            cases equal
            exact .inr ⟨text, rfl, by rw [if_pos ends, isAlone]; rfl⟩
        · next continues =>
            rw [if_neg continues]
            exact ((scans_rangeEnd first).own found).imp_left (IsSpent.of_isPast rest)
      · have isOther := append_closing_ne_cons (by decide) (not_exists.1 isHyphen)
        rw [← kept] at isOther
        have isMore : skipSpace flags.verbose (text ++ closing) ≠ [] := by
          rw [kept]
          exact List.append_ne_nil_of_right_ne_nil _ (List.cons_ne_nil _ _)
        rw [afterItem?_other isMore isOther] at found
        obtain ⟨characters, isAlone, equal⟩ := Option.map_eq_some_iff.1 found
        cases equal
        -- Without the parenthesis, a class that ends after an item is refused at once.
        by_cases isEmpty : skipSpace flags.verbose text = []
        · rw [isEmpty] at kept
          refine .inl ?_
          rw [IsSpent, kept]
          exact List.suffix_rfl
        · refine .inr ⟨text, rfl, ?_⟩
          rw [afterItem?_other isEmpty (not_exists.1 isHyphen), isAlone]
          rfl
    · rw [afterItem?, gone] at found
      contradiction

theorem scans_readRange?_cons (flags : Flags) (first : Char) :
    Scans (IsSpent flags.verbose) fun rest => readRange? flags (first :: rest) :=
  ((scans_readItem?_cons flags first).andThen IsSpent.of_isPast scans_afterItem?).of_eq
    fun rest => readRange?_eq_characters (first :: rest)

section Step

variable {state : Bracket.State} {character : Char}

theorem step_space
    (isSpace : (flags.verbose && (Text.isBlank character || character == '#')) = true)
    (rest : List Char) :
    Bracket.step flags state character rest =
      some (.inl (state, skipComments false (character :: rest))) := by
  unfold Bracket.step
  rw [if_pos isSpace]

theorem step_open (rest : List Char) :
    (Bracket.step flags state '[' rest).map outcome =
      (readNamed? rest).elim
        (((openClass? flags state.items rest).map fun found =>
          ((found.1, found.2.1), found.2.2)).bind fun found =>
            some (.inl ⟨found.1.1, found.1.2, state.frame :: state.outerFrames⟩, found.2))
        fun found =>
          ((negate? flags found.1.2 (regardingCase flags found.1.1)).map fun characters =>
            .inl { state with items := state.items.addClass characters }).map (·, found.2) := by
  unfold Bracket.step
  rw [if_neg (isMeant (by decide) (by decide))]
  simp only [readNamed?]
  cases readAsciiClass? rest with
  | none => cases openClass? flags state.items rest <;> rfl
  | some found =>
      simp only [Option.map_some, Option.elim_some]
      cases negate? flags found.2.1 (regardingCase flags found.1) <;> rfl

theorem step_close (rest : List Char) :
    (Bracket.step flags state ']' rest).map outcome =
      ((closeClass? flags state).map fun part =>
        match state.outerFrames with
        | [] => Sum.inr part
        | frame :: outerFrames => Sum.inl ⟨state.frame.outer.add part, frame, outerFrames⟩).bind
          fun closed => some (closed, rest) := by
  unfold Bracket.step
  rw [if_neg (isMeant (by decide) (by decide))]
  simp only
  cases closeClass? flags state with
  | none => rfl
  | some part => cases state.outerFrames <;> rfl

/-- The operator that is written as a character twice. -/
def operator? : Char → Option Operator
  | '&' => some .intersection
  | '-' => some .difference
  | '~' => some .symmetricDifference
  | _ => none

theorem step_range {rest : List Char}
    (isMeant : ¬ (flags.verbose && (Text.isBlank character || character == '#')) = true)
    (notOpen : character ≠ '[') (notClose : character ≠ ']')
    (notTwice : operator? character ≠ none → ∀ later, rest = character :: later → False) :
    (Bracket.step flags state character rest).map outcome =
      (readRange? flags (character :: rest)).bind fun found =>
        some (.inl { state with items := state.items.addClass found.1 }, found.2) := by
  unfold Bracket.step
  rw [if_neg isMeant]
  split
  · contradiction
  · contradiction
  · next later => exact (notTwice (by decide) later rfl).elim
  · next later => exact (notTwice (by decide) later rfl).elim
  · next later => exact (notTwice (by decide) later rfl).elim
  · cases readRange? flags (character :: rest) <;> rfl

theorem step_isMeant_of_operator? (flags : Flags) (isOperator : operator? character ≠ none) :
    ¬ (flags.verbose && (Text.isBlank character || character == '#')) = true ∧
      character ≠ '[' ∧ character ≠ ']' := by
  unfold operator? at isOperator
  split at isOperator
  · exact ⟨isMeant (by decide) (by decide), by decide, by decide⟩
  · exact ⟨isMeant (by decide) (by decide), by decide, by decide⟩
  · exact ⟨isMeant (by decide) (by decide), by decide, by decide⟩
  · contradiction

theorem step_operator {operator : Operator} (isOperator : operator? character = some operator)
    (rest : List Char) :
    (Bracket.step flags state character rest).map outcome =
      expecting character (fun rest => some (.inl (state.operate flags operator), rest))
        (fun rest => (readRange? flags (character :: rest)).bind fun found =>
            some (.inl { state with items := state.items.addClass found.1 }, found.2)) rest := by
  by_cases isTwice : ∃ later, rest = character :: later
  · obtain ⟨later, rfl⟩ := isTwice
    rw [expecting_head]
    unfold Bracket.step
    unfold operator? at isOperator
    split at isOperator
    all_goals cases isOperator
    all_goals rw [if_neg (isMeant (by decide) (by decide))]
    all_goals rfl
  · have isOther := step_isMeant_of_operator? flags (Option.ne_none_iff_exists'.2 ⟨_, isOperator⟩)
    rw [expecting_other (not_exists.1 isTwice)]
    exact step_range isOther.1 isOther.2.1 isOther.2.2 fun _ => not_exists.1 isTwice

/-- A step through a class reads on from left to right. -/
theorem scans_step : Scans (IsSpent flags.verbose) fun rest =>
    (Bracket.step flags state character rest).map outcome := by
  have range := (scans_readRange?_cons flags character).filterMap fun characters =>
    some (Sum.inl (β := Part) { state with items := state.items.addClass characters })
  by_cases isSpace : (flags.verbose && (Text.isBlank character || character == '#')) = true
  · have skipped := (scans_skipComments (!Text.isBlank character)).filterMap fun _ =>
      some (Sum.inl (β := Part) state)
    refine (skipped.mono IsSpent.of_isPast).of_eq fun rest => ?_
    rw [step_space isSpace, skipComments_cons (Bool.and_eq_true_iff.1 isSpace).2]
    rfl
  · by_cases isOpen : character = '['
    · subst isOpen
      have inner := (scans_openClass? flags state.items).filterMap fun found =>
        some (Sum.inl (β := Part)
          (⟨found.1, found.2, state.frame :: state.outerFrames⟩ : Bracket.State))
      exact (Scans.orElse readNamed?_suffix readNamed?_append (fun named =>
        (negate? flags named.2 (regardingCase flags named.1)).map fun characters =>
          Sum.inl { state with items := state.items.addClass characters }) inner).of_eq step_open
    · by_cases isClose : character = ']'
      · subst isClose
        exact (Scans.lift _ fun closed => .pure closed).of_eq step_close
      · cases isOperator : operator? character with
        | none =>
            refine range.of_eq fun rest => step_range isSpace isOpen isClose ?_
            exact fun isSome => (isSome isOperator).elim
        | some operator =>
            refine (Scans.headed character ?_ (.pure _) range).of_eq (step_operator isOperator)
            rintro rfl
            contradiction

end Step

section Scan

variable {state : Bracket.State} {result : Part × List Char}

theorem eq_bracket_of_step {character : Char} {rest : List Char}
    (closes : Bracket.step flags state character rest = some (.inr result)) :
    character = ']' := by
  refine Decidable.byContradiction fun notClose => ?_
  have ends := map_outcome_eq_inr.2 closes
  by_cases isSpace : (flags.verbose && (Text.isBlank character || character == '#')) = true
  · rw [step_space isSpace] at closes
    cases closes
  · by_cases isOpen : character = '['
    · subst isOpen
      rw [step_open] at ends
      cases isNamed : readNamed? rest with
      | none =>
          rw [isNamed] at ends
          obtain ⟨found, -, equal⟩ := Option.bind_eq_some_iff.1 ends
          cases equal
      | some named => simp [isNamed] at ends
    · by_cases isTwice : operator? character ≠ none ∧ ∃ later, rest = character :: later
      · obtain ⟨isOperator, later, rfl⟩ := isTwice
        obtain ⟨operator, isOperator⟩ := Option.ne_none_iff_exists'.1 isOperator
        rw [step_operator isOperator, expecting_head] at ends
        cases ends
      · rw [step_range isSpace isOpen notClose fun isOperator later isHead =>
          isTwice ⟨isOperator, later, isHead⟩] at ends
        obtain ⟨found, -, equal⟩ := Option.bind_eq_some_iff.1 ends
        cases equal

/-- A class that ends in a text ends with a bracket. -/
theorem mem_of_scan {text : List Char}
    (closes : scan (Bracket.step flags) 0 state text = some (.inr result)) : ']' ∈ text := by
  obtain ⟨state, last, before, rest, rfl, stepped⟩ := exists_step_of_scan closes
  rw [eq_bracket_of_step stepped]
  exact List.mem_append_right _ (List.mem_cons_self ..)

theorem not_scan_of_isSpent {text : List Char} (spent : IsSpent flags.verbose text) :
    scan (Bracket.step flags) 0 state text ≠ some (.inr result) := by
  intro closes
  have noBracket : ']' ∉ closing := by decide
  cases text with
  | nil => cases closes
  | cons first text =>
      by_cases isSpace : (flags.verbose && (Text.isBlank first || first == '#')) = true
      · obtain ⟨isVerbose, isSkipped⟩ := Bool.and_eq_true_iff.1 isSpace
        have suffix : skipComments false (first :: text) <:+ text := by
          rw [skipComments_cons isSkipped]
          exact skipComments_suffix _ text
        rw [scan_cons (step_space isSpace text) suffix] at closes
        rw [IsSpent, skipSpace, if_pos isVerbose] at spent
        exact noBracket (spent.subset (mem_of_scan closes))
      · rw [IsSpent, skipSpace_of_isMeant isSpace] at spent
        exact noBracket (spent.subset (mem_of_scan closes))

theorem step_suffix {character : Char} {rest : List Char} {next : Bracket.State}
    {remaining : List Char}
    (stepped : Bracket.step flags state character rest = some (.inl (next, remaining))) :
    remaining <:+ rest :=
  scans_step.suffix (map_outcome_eq_inl.2 stepped)

/-- A class that is read in front of the closing parenthesis ends before it. -/
theorem scan_append {text : List Char}
    (closes : scan (Bracket.step flags) 0 state (text ++ closing) = some (.inr result)) :
    ∃ own, result.2 = own ++ closing ∧
      scan (Bracket.step flags) 0 state text = some (.inr (result.1, own)) := by
  induction isLong : text.length using Nat.strongRecOn generalizing state text with
  | ind length ih =>
      cases text with
      | nil =>
          have noBracket : ']' ∉ closing := by decide
          exact (noBracket (mem_of_scan closes)).elim
      | cons first text =>
          rw [List.cons_append] at closes
          cases stepped : Bracket.step flags state first (text ++ closing) with
          | none => simp [scan, stepped] at closes
          | some found =>
              cases found with
              | inr found =>
                  simp only [scan, stepped, Option.some.injEq, Sum.inr.injEq] at closes
                  subst closes
                  obtain rfl := eq_bracket_of_step stepped
                  have ends := map_outcome_eq_inr.2 stepped
                  rw [step_close] at ends
                  obtain ⟨closed, isClosed, equal⟩ := Option.bind_eq_some_iff.1 ends
                  obtain ⟨rfl, isLeft⟩ := Prod.mk.inj (Option.some.inj equal)
                  have ownStepped : Bracket.step flags state ']' text =
                      some (.inr (found.1, text)) := by
                    rw [← map_outcome_eq_inr, step_close, isClosed]
                    rfl
                  exact ⟨text, isLeft.symm, by simp only [scan, ownStepped]⟩
              | inl found =>
                  rw [scan_cons stepped (step_suffix stepped)] at closes
                  have stepped := map_outcome_eq_inl.2 stepped
                  rcases scans_step.own stepped with spent | ⟨own, isOwn, ownStepped⟩
                  · -- No bracket is left that could end the class.
                    exact (not_scan_of_isSpent spent closes).elim
                  · have ownStepped := map_outcome_eq_inl.1 ownStepped
                    have suffix := step_suffix ownStepped
                    rw [isOwn] at closes
                    obtain ⟨own, isLeft, ends⟩ := ih own.length
                      (by have := suffix.length_le; simp only [List.length_cons] at isLong; omega)
                      closes rfl
                    exact ⟨own, isLeft, by rw [scan_cons ownStepped suffix, ends]⟩

end Scan

theorem read?_eq_some {text rest : List Char} {part : Part} :
    Bracket.read? flags text = some (part, rest) ↔
      ∃ found, openClass? flags {} text = some found ∧
        scan (Bracket.step flags) 0 ⟨found.1, found.2.1, []⟩ found.2.2 =
          some (.inr (part, rest)) := by
  simp only [Bracket.read?, Option.bind_eq_bind, Option.bind_eq_some_iff]
  constructor
  · rintro ⟨found, opened, ends, scanned, isResult⟩
    cases ends with
    | inl state => cases isResult
    | inr result =>
        cases isResult
        exact ⟨found, opened, scanned⟩
  · rintro ⟨found, opened, scanned⟩
    exact ⟨found, opened, _, scanned, rfl⟩

theorem scans_read? : Scans IsPast (Bracket.read? flags) where
  suffix := by
    intro text part rest isRead
    obtain ⟨found, opened, scanned⟩ := read?_eq_some.1 isRead
    obtain ⟨state, last, before, after, isSplit, stepped⟩ := exists_step_of_scan scanned
    have head := (scans_openClass? flags {}).suffix (Option.map_eq_some_iff.2 ⟨found, opened, rfl⟩)
    have last := scans_step.suffix (map_outcome_eq_inr.2 stepped)
    rw [isSplit] at head
    exact (last.trans (List.suffix_cons _ _)).trans ((List.suffix_append _ _).trans head)
  own := by
    intro text part rest isRead
    obtain ⟨found, opened, scanned⟩ := read?_eq_some.1 isRead
    rcases (scans_openClass? flags {}).own (Option.map_eq_some_iff.2 ⟨found, opened, rfl⟩) with
      spent | ⟨own, isOwn, ownFound⟩
    · exact (not_scan_of_isSpent spent scanned).elim
    · obtain ⟨⟨items, frame, between⟩, ownOpened, equal⟩ := Option.map_eq_some_iff.1 ownFound
      obtain ⟨sameHead, rfl⟩ := Prod.mk.inj equal
      obtain ⟨sameItems, sameFrame⟩ := Prod.mk.inj sameHead
      rw [isOwn, ← sameItems, ← sameFrame] at scanned
      obtain ⟨left, isLeft, ends⟩ := scan_append scanned
      exact .inr ⟨left, isLeft, read?_eq_some.2 ⟨_, ownOpened, ends⟩⟩

end Screenplay.Pattern.Bracket
