import Mathlib.Data.List.Forall2
import Screenplay.Json.Writer
import Screenplay.Proofs.Text.Literal

/-!
# How written values are spelled

A text is written between quotes, a number as its digits.  Scanning what was written yields
one token for each of them, and marks and white space around them do not matter.  The pieces
of a text decode to it, and the spelling of an integer is held as that integer.

Where a word ends is seen only at the character after it.  `Scanner.HasRead` therefore counts a
word that may still go on among the tokens that were read, and `Spells` joins two stretches
where the second one cannot carry on a word of the first one.
-/

namespace Screenplay.Json

open Token (Scanner)

/-! ## Texts -/

/-- A piece of a text that stands for a character, whatever is next to it. -/
inductive Piece.Shows : Piece → Char → Prop where
  | char (character : Char) : Shows (.char character) character
  | code {character : Char} (control : character.toNat < 0x20) :
      Shows (.code character.toNat) character

theorem decodePieces?_of_shows {pieces : List Piece} {characters : List Char}
    (shows : List.Forall₂ Piece.Shows pieces characters) :
    decodePieces? pieces = some characters := by
  induction shows with
  | nil => rfl
  | cons first _ ih =>
      cases first with
      | char => rw [decodePieces?, ih, Option.map_some]
      | code control =>
          rw [decodePieces?.eq_def]
          simp only
          rw [if_neg (by omega), if_neg (by omega), ih, Option.map_some, Char.ofNat_toNat]

namespace Token.Scanner

variable {tokens : List Token}

/-- Characters that are read as a token and show where it ends. -/
def Ends (characters : List Char) (token : Token) : Prop :=
  ∀ tokens, characters.foldlM step ⟨tokens, .between⟩ = some ⟨token :: tokens, .between⟩

/-- Four hexadecimal digits make up a code below 256 if the first two are zeros. -/
theorem foldlM_code {pieces : List Piece} {code : Nat} (small : code < 256) :
    ['u', '0', '0', Nat.digitChar (code / 16), Nat.digitChar (code % 16)].foldlM step
      ⟨tokens, .escape pieces⟩ = some ⟨tokens, .text (.code code :: pieces)⟩ := by
  have high := Text.hexValue?_digitChar (show code / 16 < 16 by omega)
  have low := Text.hexValue?_digitChar (Nat.mod_lt code (show 0 < 16 by decide))
  have zero : Text.hexValue? '0' = some 0 := rfl
  have whole : 16 * (code / 16) + code % 16 = code := Nat.div_add_mod code 16
  simp [step, high, low, zero, whole]

/-- Every character is written so that scanning yields a piece that shows it. -/
theorem exists_piece (character : Char) : ∃ piece : Piece, piece.Shows character ∧
    ∀ tokens pieces, (writeChar character).foldlM step ⟨tokens, .text pieces⟩ =
      some ⟨tokens, .text (piece :: pieces)⟩ := by
  rw [writeChar.eq_def]
  split
  -- The last case has no short escape: it is a control or written as it is.
  case h_8 notQuote notEscape _ _ _ _ _ =>
    have noQuote : character ≠ '"' := notQuote
    have noEscape : character ≠ '\\' := notEscape
    split
    next control =>
      refine ⟨.code character.toNat, .code control, fun tokens pieces => ?_⟩
      rw [List.foldlM_cons]
      exact foldlM_code (Nat.lt_trans control (by decide))
    next printed =>
      refine ⟨.char character, .char character, fun tokens pieces => ?_⟩
      simp [step, noQuote, noEscape, printed]
  all_goals exact ⟨.char _, .char _, fun _ _ => rfl⟩

theorem exists_pieces (characters : List Char) : ∃ read : List Piece,
    List.Forall₂ Piece.Shows read characters ∧
      ∀ tokens pieces, (characters.flatMap writeChar).foldlM step ⟨tokens, .text pieces⟩ =
        some ⟨tokens, .text (read.reverse ++ pieces)⟩ := by
  induction characters with
  | nil => exact ⟨[], .nil, fun _ _ => rfl⟩
  | cons character rest ih =>
      obtain ⟨piece, shows, isPiece⟩ := exists_piece character
      obtain ⟨read, restShows, isRead⟩ := ih
      refine ⟨piece :: read, .cons shows restShows, fun tokens pieces => ?_⟩
      rw [List.flatMap_cons, List.foldlM_append, isPiece]
      simp [isRead]

/-- A written text is one token, which decodes to the text. -/
theorem exists_text (text : String) : ∃ pieces, decodeText? pieces = some text ∧
    Ends (writeText text) (.text pieces) := by
  obtain ⟨read, shows, isRead⟩ := exists_pieces text.toList
  refine ⟨read, ?_, fun tokens => ?_⟩
  · rw [decodeText?, decodePieces?_of_shows shows, Option.map_some, String.ofList_toList]
  · have begins : step ⟨tokens, .between⟩ '"' = some ⟨tokens, .text []⟩ := rfl
    rw [writeText, List.cons_append, List.foldlM_cons, begins, Option.bind_eq_bind,
      Option.bind_some, List.foldlM_append, isRead]
    simp [step]

end Token.Scanner

/-! ## Integers -/

/-- Only zero is written with a zero in front. -/
theorem eq_zero_of_head?_toDigits {number : Nat}
    (leading : (Nat.toDigits 10 number).head? = some '0') : number = 0 := by
  induction number using Nat.strongRecOn with
  | ind number ih =>
      rw [Nat.toDigits_eq_if (by decide)] at leading
      split at leading
      next => exact Nat.digitChar_eq_zero.1 (Option.some.inj leading)
      next large =>
        rw [List.head?_append, Option.or_eq_some_iff, List.head?_eq_none_iff] at leading
        rcases leading with isZero | ⟨nothing, -⟩
        · have small := ih (number / 10) (Nat.div_lt_self (by omega) (by decide)) isZero
          omega
        · exact (Nat.toDigits_ne_nil nothing).elim

theorem Spelling.ofUnsigned?_toDigits (negative : Bool) (number : Nat) :
    ofUnsigned? negative (Nat.toDigits 10 number) =
      some ⟨negative, Nat.toDigits 10 number, none, none⟩ := by
  have each : ∀ digit ∈ Nat.toDigits 10 number, digit.isDigit = true :=
    fun _ member => Nat.isDigit_of_mem_toDigits (by decide) (by decide) member
  have whole := List.takeWhile_eq_self_iff.2 each
  have nothing := List.dropWhile_eq_nil_iff.2 each
  have leading : (Nat.toDigits 10 number).head? = some '0' →
      (Nat.toDigits 10 number).length = 1 := by
    intro isZero
    rw [eq_zero_of_head?_toDigits isZero]
    rfl
  simp only [ofUnsigned?, whole, nothing, readExponent?]
  rw [if_neg (by simpa using leading)]
  rfl

namespace Number

/-- A number that is no double. -/
inductive IsInteger : Number → Prop where
  | natural (value : UInt64) : IsInteger (.natural value)
  | negative (value : Int64) (below : value < 0) : IsInteger (.negative value below)

variable {number : Number}

theorem absorb_toDigits {value : Nat} (within : value ≤ naturalLimit) :
    absorb 0 (Nat.toDigits 10 value) = (value, 0) :=
  (absorb_eq_iff (fun _ member => Nat.isDigit_of_mem_toDigits (by decide) (by decide) member)
    (Nat.zero_le _)).2 ⟨Nat.ofDigitChars_ten_toDigits, within⟩

theorem ofSpelling?_toDigits {value : Nat} (negative : Bool) (within : value ≤ naturalLimit) :
    ofSpelling? ⟨negative, Nat.toDigits 10 value, none, none⟩ =
      some (ofInteger negative value) := by
  simp [ofSpelling?, absorb_toDigits within]

theorem toInt_eq_neg_natAbs {value : Int64} (below : value < 0) :
    value.toInt = -(value.toInt.natAbs : Int) := by
  rw [Int64.lt_iff_toInt_lt, Int64.toInt_zero] at below
  omega

/-- What an integer is written as consists of digits, perhaps after a minus sign. -/
theorem IsInteger.exists_digits (isInteger : number.IsInteger) : ∃ negative value,
    value ≤ naturalLimit ∧ ofInteger negative value = number ∧
      number.toText.toList =
        if negative then '-' :: Nat.toDigits 10 value else Nat.toDigits 10 value := by
  cases isInteger with
  | natural value =>
      refine ⟨false, value.toNat, Nat.le_pred_of_lt value.toNat_lt_size, ?_, ?_⟩
      · rw [ofInteger_eq_natural_iff]
        exact ⟨rfl, UInt64.ofNat_toNat⟩
      · rw [toText, Nat.toString_eq_repr, Nat.toList_repr]
        rfl
  | negative value below =>
      have sign := toInt_eq_neg_natAbs below
      have lowest := Int64.le_toInt value
      have positive : 0 < value.toInt.natAbs := by
        rw [Int64.lt_iff_toInt_lt, Int64.toInt_zero] at below
        omega
      have within : value.toInt.natAbs ≤ negativeLimit := by
        change value.toInt.natAbs ≤ 9223372036854775808
        omega
      refine ⟨true, value.toInt.natAbs, Nat.le_trans within (by decide), ?_, ?_⟩
      · simp only [ofInteger, Bool.not_true, Bool.false_eq_true, if_false,
          dif_pos (And.intro positive within), Number.negative.injEq]
        rw [← sign, Int64.ofInt_toInt]
      · rw [toText, if_pos rfl]
        -- A magnitude above zero makes `toString` choose the form with a minus sign.
        obtain ⟨magnitude, isMagnitude⟩ := Nat.exists_eq_add_one_of_ne_zero positive.ne'
        rw [isMagnitude] at sign ⊢
        rw [sign]
        change ("-" ++ Nat.repr (magnitude + 1)).toList = _
        rw [String.toList_append, Nat.toList_repr]
        rfl

/-- An integer is written as a spelling of it. -/
theorem IsInteger.exists_spelling (isInteger : number.IsInteger) :
    ∃ spelling, Spelling.ofWord? number.toText.toList = some spelling ∧
      ofSpelling? spelling = some number := by
  obtain ⟨negative, value, within, isNumber, written⟩ := isInteger.exists_digits
  refine ⟨⟨negative, Nat.toDigits 10 value, none, none⟩, ?_, ?_⟩
  · rw [written]
    cases negative with
    | true => exact Spelling.ofUnsigned?_toDigits true value
    | false =>
        rw [if_neg Bool.false_ne_true, Spelling.ofWord?.eq_def]
        split
        next minus =>
          have isDigit := Nat.isDigit_of_mem_toDigits (b := 10) (n := value) (c := '-')
            (by decide) (by decide) (by simp [minus])
          exact absurd isDigit (by decide)
        next => exact Spelling.ofUnsigned?_toDigits false value
  · rw [ofSpelling?_toDigits negative within, isNumber]

theorem IsInteger.isWordChar (isInteger : number.IsInteger) :
    ∀ character ∈ number.toText.toList, isWordChar character = true := by
  obtain ⟨negative, value, -, -, written⟩ := isInteger.exists_digits
  have digits : ∀ character ∈ Nat.toDigits 10 value, Json.isWordChar character = true := by
    intro character among
    have isDigit := Nat.isDigit_of_mem_toDigits (by decide) (by decide) among
    simp [Json.isWordChar, Char.isAlphanum, isDigit]
  rw [written]
  split
  · exact List.forall_mem_cons.2 ⟨rfl, digits⟩
  · exact digits

theorem IsInteger.toText_ne_nil (isInteger : number.IsInteger) : number.toText.toList ≠ [] := by
  obtain ⟨negative, value, -, -, written⟩ := isInteger.exists_digits
  rw [written]
  split
  · exact List.cons_ne_nil _ _
  · exact Nat.toDigits_ne_nil

end Number

/-! ## Tokens -/

namespace Token

/-- A character that is a token of its own. -/
inductive IsMark : Char → Token → Prop where
  | beginArray : IsMark '[' .beginArray
  | endArray : IsMark ']' .endArray
  | beginObject : IsMark '\x7b' .beginObject
  | endObject : IsMark '\x7d' .endObject
  | comma : IsMark ',' .comma
  | colon : IsMark ':' .colon

theorem IsMark.ends {character : Char} {token : Token} (isMark : IsMark character token) :
    Scanner.Ends [character] token := by
  intro tokens
  cases isMark <;> rfl

theorem IsMark.isWordChar_eq_false {character : Char} {token : Token}
    (isMark : IsMark character token) : isWordChar character = false := by
  cases isMark <;> decide

theorem isWordChar_eq_false_of_isSpace {character : Char} (space : isSpace character = true) :
    isWordChar character = false := by
  simp only [isSpace, Bool.or_eq_true, beq_iff_eq] at space
  rcases space with ((rfl | rfl) | rfl) | rfl <;> decide

/-- What is spelled as a number is no other word. -/
theorem ofWord?_of_spelling {word : List Char} {spelling : Spelling}
    (spelled : Spelling.ofWord? word = some spelling) : ofWord? word = some (.number spelling) := by
  have noWord {other : String} (foreign : Spelling.ofWord? other.toList = none) :
      String.ofList word ≠ other := by
    rintro rfl
    rw [String.toList_ofList, spelled] at foreign
    cases foreign
  rw [ofWord?.eq_def]
  split
  next null => exact (noWord rfl null).elim
  next isTrue => exact (noWord rfl isTrue).elim
  next isFalse => exact (noWord rfl isFalse).elim
  next => rw [spelled, Option.map_some]

/-- The tokens that a scanner has read, the last one first, if no word goes on. -/
inductive Scanner.HasRead : Scanner → List Token → Prop where
  | between (tokens : List Token) : HasRead ⟨tokens, .between⟩ tokens
  | word {tokens : List Token} {letters : List Char} {token : Token}
      (meant : ofWord? letters.reverse = some token) :
      HasRead ⟨tokens, .word letters⟩ (token :: tokens)

/-- A character that belongs to no word is read as if the word before it were a token
already. -/
theorem Scanner.HasRead.step_eq {scanner : Scanner} {tokens : List Token} {character : Char}
    (hasRead : scanner.HasRead tokens) (noWord : isWordChar character = false) :
    scanner.step character = Scanner.step ⟨tokens, .between⟩ character := by
  cases hasRead with
  | between => rfl
  | word meant => simp [Scanner.step, noWord, meant]

theorem Scanner.HasRead.finish?_eq {scanner : Scanner} {tokens : List Token}
    (hasRead : scanner.HasRead tokens) : scanner.finish? = some tokens.reverse := by
  cases hasRead with
  | between => rfl
  | word meant => simp [Scanner.finish?, meant]

/-- Characters that are scanned to tokens. -/
def Spells (characters : List Char) (tokens : List Token) : Prop :=
  ∀ before, ∃ scanner, characters.foldlM Scanner.step ⟨before, .between⟩ = some scanner ∧
    scanner.HasRead (tokens.reverse ++ before)

variable {characters others : List Char} {tokens more : List Token} {character : Char}
  {token : Token}

theorem spells_nil : Spells [] [] :=
  fun before => ⟨_, rfl, .between before⟩

/-- Characters that end a token may be followed by anything. -/
theorem Spells.after {ended : List Char} {token : Token} (ends : Scanner.Ends ended token)
    (spells : Spells characters tokens) : Spells (ended ++ characters) (token :: tokens) := by
  intro before
  obtain ⟨scanner, isScanner, hasRead⟩ := spells (token :: before)
  refine ⟨scanner, ?_, by simpa using hasRead⟩
  rw [List.foldlM_append, ends, Option.bind_eq_bind, Option.bind_some, isScanner]

theorem Spells.space (space : isSpace character = true) (spells : Spells characters tokens) :
    Spells (character :: characters) tokens := by
  intro before
  obtain ⟨scanner, isScanner, hasRead⟩ := spells before
  refine ⟨scanner, ?_, hasRead⟩
  have passed : Scanner.step ⟨before, .between⟩ character = some ⟨before, .between⟩ := by
    simp [Scanner.step, Scanner.stepBetween, space]
  rw [List.foldlM_cons, passed, Option.bind_eq_bind, Option.bind_some, isScanner]

theorem foldlM_word {letters : List Char} {before : List Token}
    (each : ∀ character ∈ characters, isWordChar character = true) :
    characters.foldlM Scanner.step ⟨before, .word letters⟩ =
      some ⟨before, .word (characters.reverse ++ letters)⟩ := by
  induction characters generalizing letters with
  | nil => rfl
  | cons character rest ih =>
      rw [List.forall_mem_cons] at each
      have longer : Scanner.step ⟨before, .word letters⟩ character =
          some ⟨before, .word (character :: letters)⟩ := by
        simp [Scanner.step, each.1]
      rw [List.foldlM_cons, longer, Option.bind_eq_bind, Option.bind_some, ih each.2]
      simp

theorem spells_word (each : ∀ character ∈ characters, isWordChar character = true)
    (meant : ofWord? characters = some token) (nonempty : characters ≠ []) :
    Spells characters [token] := by
  intro before
  obtain ⟨first, rest, rfl⟩ := List.exists_cons_of_ne_nil nonempty
  rw [List.forall_mem_cons] at each
  have noSpace : isSpace first = false := by
    rw [← Bool.not_eq_true]
    intro space
    rw [isWordChar_eq_false_of_isSpace space] at each
    cases each.1
  have begins : Scanner.step ⟨before, .between⟩ first = some ⟨before, .word [first]⟩ := by
    simp [Scanner.step, Scanner.stepBetween, each.1, noSpace]
  refine ⟨⟨before, .word (rest.reverse ++ [first])⟩, ?_, .word (by simpa using meant)⟩
  rw [List.foldlM_cons, begins, Option.bind_eq_bind, Option.bind_some, foldlM_word each.2]

/-- Two stretches are scanned one after the other if no word goes on in the second one. -/
theorem Spells.append (spells : Spells characters tokens)
    (continues : Spells (character :: others) more) (noWord : isWordChar character = false) :
    Spells (characters ++ character :: others) (tokens ++ more) := by
  intro before
  obtain ⟨scanner, isScanner, hasRead⟩ := spells before
  obtain ⟨last, isLast, hasReadMore⟩ := continues (tokens.reverse ++ before)
  refine ⟨last, ?_, by simpa using hasReadMore⟩
  rw [List.foldlM_append, isScanner, Option.bind_eq_bind, Option.bind_some, List.foldlM_cons,
    hasRead.step_eq noWord, ← List.foldlM_cons, isLast]

theorem Spells.scan?_eq (spells : Spells characters tokens) :
    scan? (String.ofList characters) = some tokens := by
  obtain ⟨scanner, isScanner, hasRead⟩ := spells []
  rw [scan?, String.toList_ofList, isScanner, Option.bind_eq_bind, Option.bind_some,
    hasRead.finish?_eq, List.append_nil, List.reverse_reverse]

end Token

end Screenplay.Json
