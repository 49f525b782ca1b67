import Screenplay.Proofs.Document.Grammar

/-!
# Payloads of tasks

The kind of a task decides what goes with it: a text and nothing else, an element and nothing
else, or an element and a way to scroll.  A text that is blank counts as none.

A payload is accepted exactly when it fits the kind.  The action that is made of it is of that
kind and gives the parts back, and whoever takes it apart and puts it together again gets the
same action.  A payload that does not fit is refused for something that is amiss with it.
-/

namespace Screenplay.Action

/-- There is a text, and it is not blank. -/
def HasWords (text : Option String) : Prop :=
  ∃ words, text = some words ∧ Text.trim words ≠ ""

/-- A text, an element and a way to scroll fit a kind of task. -/
inductive Fits (kind : TaskKind) (text : Option String) :
    Option Descriptor → Option Scroll → Prop where
  | text (takesText : kind.takesText = true) (words : HasWords text) : Fits kind text none none
  | element (noText : kind.takesText = false) (noScroll : kind.takesScroll = false)
      (wordless : ¬ HasWords text) (element : Descriptor) : Fits kind text (some element) none
  | scroll (takesScroll : kind.takesScroll = true) (wordless : ¬ HasWords text)
      (element : Descriptor) (scroll : Scroll) : Fits kind text (some element) (some scroll)

/-- Something is amiss with a text, an element and a way to scroll for a kind of task. -/
inductive Misfit (kind : TaskKind) (text : Option String) (element : Option Descriptor)
    (scroll : Option Scroll) : TaskFault → Prop where
  | elementForText (takesText : kind.takesText = true) (given : element ≠ none) :
      Misfit kind text element scroll (.elementForText kind)
  | textForElement (noText : kind.takesText = false) (given : HasWords text) :
      Misfit kind text element scroll (.textForElement kind)
  | scrollRefused (noScroll : kind.takesScroll = false) (given : scroll ≠ none) :
      Misfit kind text element scroll (.scrollRefused kind)
  | textRequired (takesText : kind.takesText = true) (absent : ¬ HasWords text) :
      Misfit kind text element scroll (.required kind .text)
  | elementRequired (noText : kind.takesText = false) (absent : element = none) :
      Misfit kind text element scroll (.required kind .element)
  | scrollRequired (takesScroll : kind.takesScroll = true) (absent : scroll = none) :
      Misfit kind text element scroll (.required kind .scroll)

variable {kind : TaskKind} {text : Option String} {element : Option Descriptor}
  {scroll : Option Scroll}

/-! ## Texts -/

theorem isSome_trimText_iff : (trimText text).isSome = true ↔ HasWords text := by
  cases text with
  | none => simp [trimText, HasWords]
  | some words => simp [trimText, HasWords, Option.isSome_filter]

theorem isSome_trimText_eq_false_iff : (trimText text).isSome = false ↔ ¬ HasWords text := by
  rw [← isSome_trimText_iff, Bool.not_eq_true]

theorem trimText_of_hasWords (words : HasWords text) : trimText text = text.map Text.trim := by
  rcases words with ⟨words, rfl, nonblank⟩
  simp [trimText, Option.filter, nonblank]

theorem trimText_trimText (text : Option String) : trimText (trimText text) = trimText text :=
  Descriptor.trimPackage_trimPackage text

/-! ## Accepted payloads -/

/-- No kind of task takes both a text and a way to scroll. -/
theorem takesScroll_of_takesText (takesText : kind.takesText = true) :
    kind.takesScroll = false := by
  revert takesText
  cases kind <;> decide

theorem takesText_of_takesScroll (takesScroll : kind.takesScroll = true) :
    kind.takesText = false := by
  revert takesScroll
  cases kind <;> decide

theorem fits_iff :
    Fits kind text element scroll ↔
      (trimText text).isSome = kind.takesText ∧ (element.isSome = !kind.takesText) ∧
        scroll.isSome = kind.takesScroll := by
  constructor
  · intro fits
    cases fits with
    | text takesText words =>
        rw [takesText, takesScroll_of_takesText takesText]
        exact ⟨isSome_trimText_iff.2 words, rfl, rfl⟩
    | element noText noScroll wordless =>
        rw [noText, noScroll]
        exact ⟨isSome_trimText_eq_false_iff.2 wordless, rfl, rfl⟩
    | scroll takesScroll wordless =>
        rw [takesText_of_takesScroll takesScroll, takesScroll]
        exact ⟨isSome_trimText_eq_false_iff.2 wordless, rfl, rfl⟩
  · intro holds
    rcases holds with ⟨hasText, hasElement, hasScroll⟩
    cases takesText : kind.takesText with
    | true =>
        rw [takesText] at hasText hasElement
        rw [takesScroll_of_takesText takesText] at hasScroll
        cases element with
        | some => cases hasElement
        | none =>
            cases scroll with
            | some => cases hasScroll
            | none => exact .text takesText (isSome_trimText_iff.1 hasText)
    | false =>
        rw [takesText] at hasText hasElement
        have wordless := isSome_trimText_eq_false_iff.1 hasText
        cases element with
        | none => cases hasElement
        | some element =>
            cases scroll with
            | none => exact .element takesText hasScroll.symm wordless element
            | some scroll => exact .scroll hasScroll.symm wordless element scroll

theorem exists_ofPayload_eq_ok_iff :
    (∃ action, ofPayload kind text element scroll = .ok action) ↔
      Fits kind text element scroll := by
  simp only [ofPayload_eq_ok_iff, fits_iff]
  exact exists_hasParts_iff

/-- The text of an action that was made of a payload. -/
theorem text?_of_ofPayload {action : Action}
    (made : ofPayload kind text element scroll = .ok action) :
    action.text? = if kind.takesText then text.map Text.trim else none := by
  rcases ofPayload_eq_ok_iff.1 made with ⟨-, sameText, -, -⟩
  rcases fits_iff.1 (exists_ofPayload_eq_ok_iff.1 ⟨action, made⟩) with ⟨hasText, -, -⟩
  rw [sameText]
  cases takesText : kind.takesText with
  | true =>
      rw [takesText] at hasText
      exact trimText_of_hasWords (isSome_trimText_iff.1 hasText)
  | false =>
      rw [takesText] at hasText
      exact Option.isNone_iff_eq_none.1 (Option.isSome_eq_false_iff.1 hasText)

/-- The parts of an action that was made of a payload make up the same action. -/
theorem ofPayload_parts {action : Action}
    (made : ofPayload kind text element scroll = .ok action) :
    ofPayload action.kind action.text? action.element? action.scroll? = .ok action := by
  rcases ofPayload_eq_ok_iff.1 made with ⟨-, sameText, -, -⟩
  rw [ofPayload_eq_ok_iff]
  refine ⟨rfl, ?_, rfl, rfl⟩
  rw [sameText, trimText_trimText]

/-! ## Refused payloads -/

theorem require_eq_error_iff {α : Type} {payload : Payload} {part : Option α}
    {fault : TaskFault} :
    require kind payload part = .error fault ↔ part = none ∧ .required kind payload = fault := by
  cases part <;> simp [require]

/-- A payload is refused for something that is amiss with it. -/
theorem misfit_of_ofPayload {fault : TaskFault}
    (refused : ofPayload kind text element scroll = .error fault) :
    Misfit kind text element scroll fault := by
  have folded : (text.map Text.trim).filter (!·.isEmpty) = trimText text := rfl
  simp only [ofPayload, guard_eq_error_iff, folded] at refused
  simp only [Bool.and_eq_true, Bool.not_eq_true', isSome_trimText_iff] at refused
  rcases refused with
    ⟨⟨takesText, given⟩, rfl⟩ | ⟨-, ⟨⟨noText, given⟩, rfl⟩ | ⟨-, ⟨⟨noScroll, given⟩, rfl⟩ | made⟩⟩
  · exact .elementForText takesText (Option.isSome_iff_ne_none.1 given)
  · exact .textForElement noText given
  · exact .scrollRefused noScroll (Option.isSome_iff_ne_none.1 given)
  · obtain ⟨-, missing⟩ := made
    cases kind
    case command | hasPackageInForeground | press | longPress | wait =>
      rcases require_eq_error_iff.1 (map_eq_error_iff.1 missing) with ⟨absent, rfl⟩
      refine .textRequired rfl ?_
      rw [← isSome_trimText_iff, absent]
      decide
    case hasElementInForeground | click | clickIfExists | longClick =>
      rcases require_eq_error_iff.1 (map_eq_error_iff.1 missing) with ⟨absent, rfl⟩
      exact .elementRequired rfl absent
    case scrollToFindAndClick | scrollToFindAndClickIfExists =>
      simp only [bind_eq_error_iff, require_eq_error_iff] at missing
      rcases missing with ⟨absent, rfl⟩ | ⟨_, -, ⟨absent, rfl⟩ | ⟨_, -, impossible⟩⟩
      · exact .elementRequired rfl absent
      · exact .scrollRequired rfl absent
      · cases impossible

/-! ## Payloads and kinds -/

/-- A payload is accepted exactly when it fits the kind of the task, and then the action has
this kind and these parts, of which it can be made again.  A payload that is refused is
refused as a task, for something that is amiss with it. -/
theorem ofPayload_fits_kind (kind : TaskKind) (text : Option String)
    (element : Option Descriptor) (scroll : Option Scroll) :
    ((∃ action, ofPayload kind text element scroll = .ok action) ↔
        Fits kind text element scroll) ∧
      (∀ action, ofPayload kind text element scroll = .ok action →
        action.kind = kind ∧
          action.text? = (if kind.takesText then text.map Text.trim else none) ∧
          action.element? = element ∧ action.scroll? = scroll ∧
          ofPayload action.kind action.text? action.element? action.scroll? = .ok action) ∧
      ∀ place error,
        (ofPayload kind text element scroll).mapError (ConfigError.invalidTask place) =
            .error error →
          ∃ fault, error = .invalidTask place fault ∧ Misfit kind text element scroll fault := by
  refine ⟨exists_ofPayload_eq_ok_iff, ?_, ?_⟩
  · intro action made
    rcases ofPayload_eq_ok_iff.1 made with ⟨sameKind, -, sameElement, sameScroll⟩
    exact ⟨sameKind, text?_of_ofPayload made, sameElement, sameScroll, ofPayload_parts made⟩
  · intro place error refused
    rcases mapError_eq_error_iff.1 refused with ⟨fault, caused, rfl⟩
    exact ⟨fault, rfl, misfit_of_ofPayload caused⟩

/-- A list that can be scrolled. -/
def listView : Descriptor :=
  ⟨.className, "ListView", none, .className none "ListView", by decide, rfl, rfl⟩

/-- Swipes on the list. -/
def listSwipes : Scroll :=
  { action := .gesture .vertical listView }

/-- An optional search may come with a blank text, but not with any other. -/
theorem ofPayload_fits_kind_optionalSearch :
    let kind := TaskKind.scrollToFindAndClickIfExists
    let action := scrollToFindAndClick listView listSwipes true
    ofPayload kind (some " ") listView listSwipes = .ok action ∧
      Fits kind (some " ") listView listSwipes ∧
      ofPayload kind action.text? action.element? action.scroll? = .ok action ∧
      (ofPayload kind (some " row ") listView listSwipes).mapError (ConfigError.invalidTask none) =
        .error (.invalidTask none (.textForElement kind)) ∧
      Misfit kind (some " row ") listView listSwipes (.textForElement kind) := by
  intro kind action
  obtain ⟨accepted, carries, -⟩ := ofPayload_fits_kind kind (some " ") listView listSwipes
  obtain ⟨-, -, -, -, again⟩ := carries action rfl
  obtain ⟨-, -, fails⟩ := ofPayload_fits_kind kind (some " row ") listView listSwipes
  obtain ⟨fault, same, misfit⟩ := fails none (.invalidTask none (.textForElement kind)) rfl
  cases same
  exact ⟨rfl, accepted.1 ⟨action, rfl⟩, again, rfl, misfit⟩

end Screenplay.Action
