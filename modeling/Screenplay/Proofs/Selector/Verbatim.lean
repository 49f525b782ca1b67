import Screenplay.Proofs.Document.Description
import Screenplay.Proofs.Pattern.Verbatim

/-!
# Descriptors by their wording

A text or a description is compared with a pattern, all of it and regardless of case.  If
the value of a descriptor has none of the characters that patterns are written with, the
elements that it means are those that show just these characters, up to case.
-/

namespace Screenplay

theorem Pattern.source_of_ofSource? {source : String} {pattern : Pattern}
    (made : Pattern.ofSource? source = some pattern) : pattern.source = source := by
  rw [ofSource?] at made
  split at made
  · contradiction
  · cases made
    rfl

/-- A kind of descriptor, the selector that it makes of a pattern, and the attribute that
is compared with the pattern. -/
inductive SelectorKind.Compares :
    SelectorKind → (Pattern → Selector) → (Element → Option String) → Prop where
  | text : Compares .text .text Element.text
  | description : Compares .description .description Element.description

namespace SelectorKind.Compares

variable {kind : SelectorKind} {make : Pattern → Selector} {wording : Element → Option String}

/-- An element that lacks the attribute is not meant, whatever the pattern. -/
theorem accepts_iff (compares : Compares kind make wording) (pattern : Pattern)
    (element : Element) :
    (make pattern).accepts element = true ↔
      ∃ shown, wording element = some shown ∧ pattern.isMatch shown = true := by
  cases compares <;> exact Option.any_eq_true _ _

/-- What compares with a pattern takes no package, and its value has to be one. -/
theorem queryOf_eq_ok_iff (compares : Compares kind make wording) {value : String}
    {package : Option String} {query : Selector} (nonblank : value ≠ "") :
    Descriptor.queryOf kind value package = .ok query ↔
      package = none ∧
        ∃ pattern, Pattern.ofSource? value = some pattern ∧ make pattern = query := by
  cases package with
  | some package => cases compares <;> simp [Descriptor.queryOf, nonblank]
  | none =>
      cases compiled : Pattern.ofSource? value with
      | none => cases compares <;>
          simp [Descriptor.queryOf, Descriptor.patternOf, nonblank, compiled, Except.map]
      | some pattern => cases compares <;>
          simp [Descriptor.queryOf, Descriptor.patternOf, nonblank, compiled, Except.map]

/-- The query of a descriptor compares with the pattern of its value. -/
theorem exists_query (compares : Compares kind make wording) {descriptor : Descriptor}
    (sameKind : descriptor.kind = kind) :
    ∃ pattern, pattern.source = descriptor.value ∧ descriptor.query = make pattern := by
  subst sameKind
  obtain ⟨-, pattern, compiled, isQuery⟩ :=
    (compares.queryOf_eq_ok_iff descriptor.value_ne_empty).1 descriptor.denotes
  exact ⟨pattern, Pattern.source_of_ofSource? compiled, isQuery.symm⟩

end SelectorKind.Compares

namespace Descriptor

open Pattern (Matches SameUpToCase Term Verbatim flagged)

/-- A descriptor of a text or a description whose value stands for itself means the
elements that show as many characters, each of which is the same up to case, whatever else
there is to an element.  So does the value on its own, without the anchors around it, for
the stretches of a text, and so does it under every change of flags that leaves alone what
characters stand for. -/
theorem ofParts_verbatim_accepts {kind : SelectorKind} {make : Pattern → Selector}
    {wording : Element → Option String} (compares : kind.Compares make wording) {value : String}
    {package : Option String} {descriptor : Descriptor}
    (built : ofParts kind value package = .ok descriptor)
    (verbatim : Verbatim (Text.trim value).toList) :
    let wanted := (Text.trim value).toList
    (∀ element, descriptor.query.accepts element = true ↔
      ∃ shown, wording element = some shown ∧ SameUpToCase shown.toList wanted) ∧
    (∀ element other, wording element = wording other →
      descriptor.query.accepts element = descriptor.query.accepts other) ∧
    (∃ own, Term.ofText? wanted = some own ∧ ∀ text start stop,
      Matches text own.expression start stop ↔
        stop = start + wanted.length ∧
          SameUpToCase ((text.drop start).take wanted.length) wanted) ∧
    ∀ letters, Pattern.Flags.areValid letters = true →
      (({} : Pattern.Flags).apply letters).KeepsCharacters →
        ∃ pattern : Pattern, pattern.source = flagged letters (Text.trim value) ∧
          ∀ element, (make pattern).accepts element = descriptor.query.accepts element := by
  intro wanted
  obtain ⟨sameKind, sameValue, -⟩ := ofParts_eq_ok_iff.1 built
  obtain ⟨pattern, isValue, isQuery⟩ := compares.exists_query sameKind
  have isSource : pattern.source = Text.trim value := isValue.trans sameValue
  rw [← isSource] at verbatim
  have accepts (element : Element) : descriptor.query.accepts element = true ↔
      ∃ shown, wording element = some shown ∧ SameUpToCase shown.toList wanted := by
    rw [isQuery, compares.accepts_iff]
    simp only [Pattern.isMatch_verbatim verbatim, isSource, wanted]
  refine ⟨accepts, fun element other same => ?_, ?_, fun letters valid keeps => ?_⟩
  · rw [Bool.eq_iff_iff, accepts, accepts, same]
  · obtain ⟨own, isRead, isVerbatim⟩ := Pattern.exists_ofText?_verbatim verbatim
    rw [isSource] at isRead isVerbatim
    refine ⟨own, isRead, fun text start stop => ?_⟩
    rw [isVerbatim, Pattern.matches_verbatim]
  · obtain ⟨other, isFlagged, matched⟩ := Pattern.exists_isMatch_flagged verbatim valid keeps
    rw [isSource] at isFlagged matched
    refine ⟨other, isFlagged, fun element => ?_⟩
    rw [Bool.eq_iff_iff, accepts, compares.accepts_iff]
    simp only [matched, wanted]

/-- Case variants may be more than two: a long s and the sign of the kelvin. -/
theorem ofParts_verbatim_accepts_kelvin :
    ∃ descriptor, ofParts .text " 5 sk\t" none = .ok descriptor ∧
      Verbatim (Text.trim " 5 sk\t").toList ∧
      descriptor.query.accepts { handle := "row", text := some "5 \u017f\u212a" } = true ∧
      descriptor.query.accepts { handle := "row", description := some "5 sk" } = false ∧
      descriptor.query.accepts { handle := "row", text := some "5 sk " } = false := by
  have isBuilt : (ofParts .text " 5 sk\t" none).toOption.isSome = true := by decide +kernel
  have verbatim : Verbatim (Text.trim " 5 sk\t").toList := by decide +kernel
  obtain ⟨descriptor, isSome⟩ := Option.isSome_iff_exists.1 isBuilt
  cases built : ofParts .text " 5 sk\t" none with
  | error fault => simp [built, Except.toOption] at isSome
  | ok descriptor =>
      have accepts := (ofParts_verbatim_accepts .text built verbatim).1
      refine ⟨descriptor, rfl, verbatim, (accepts _).2 ⟨_, rfl, ?_⟩, ?_, ?_⟩
      · unfold SameUpToCase
        decide +kernel
      · rw [Bool.eq_false_iff, Ne, accepts]
        rintro ⟨_, ⟨⟩, -⟩
      · rw [Bool.eq_false_iff, Ne, accepts]
        rintro ⟨_, ⟨⟩, same⟩
        exact absurd same.length_eq (by decide)

end Descriptor

end Screenplay
