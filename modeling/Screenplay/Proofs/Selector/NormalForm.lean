import Screenplay.Proofs.Document.Grammar
import Screenplay.Proofs.Document.Sound
import Screenplay.Proofs.Selector.Verbatim

/-!
# Normal forms of descriptors

Of the blanks around the parts that a descriptor is built of nothing is left in it, and a
blank package is none.  So there is one descriptor for all ways to pad its parts, which is
built of its own parts again, and its query is made of exactly these parts.
-/

namespace Screenplay

/-! ## Texts without padding -/

/-- A text that begins and ends with characters that are not blank. -/
structure Text.IsTight (text : String) : Prop where
  begins : ∃ first, text.toList.head? = some first ∧ isBlank first = false
  ends : ∃ last, text.toList.getLast? = some last ∧ isBlank last = false

/-- A text has no padding and is not blank exactly when both of its ends show something. -/
theorem isPlain_iff_isTight {text : String} : IsPlain text ↔ Text.IsTight text := by
  constructor
  · rintro ⟨trimmed, nonempty⟩
    have same : Text.trimChars text.toList = text.toList := by
      rw [← Text.toList_trim, trimmed]
    have some : text.toList ≠ [] := mt String.toList_eq_nil_iff.1 nonempty
    refine ⟨⟨_, List.head?_eq_some_head some, ?_⟩, ⟨_, List.getLast?_eq_some_getLast some, ?_⟩⟩
    · exact Text.head?_trimChars text.toList _ (by
        rw [same]
        exact List.head?_eq_some_head some)
    · exact Text.getLast?_trimChars text.toList _ (by
        rw [same]
        exact List.getLast?_eq_some_getLast some)
  · rintro ⟨⟨first, isFirst, begins⟩, last, isLast, ends⟩
    constructor
    · rw [← String.toList_inj, Text.toList_trim]
      refine Text.trimChars_eq_self (fun head isHead => ?_) fun final isFinal => ?_
      · rw [isFirst] at isHead
        cases isHead
        exact begins
      · rw [isLast] at isFinal
        cases isFinal
        exact ends
    · rintro rfl
      cases isFirst

namespace Descriptor

variable {kind : SelectorKind} {value : String} {package : Option String}
  {descriptor : Descriptor}

/-! ## Packages -/

/-- What is left of a package is the same for none and for a blank one. -/
theorem trimPackage_eq (package : Option String) :
    trimPackage package =
      if Text.trim (package.getD "") = "" then none else some (Text.trim (package.getD "")) := by
  cases package with
  | none => rfl
  | some written => by_cases blank : Text.trim written = "" <;> simp [trimPackage, blank]

theorem getD_trimPackage (package : Option String) :
    (trimPackage package).getD "" = Text.trim (package.getD "") := by
  rw [trimPackage_eq]
  split
  next blank => rw [blank, Option.getD_none]
  next => rw [Option.getD_some]

theorem isPlain_of_mem_package (descriptor : Descriptor) :
    ∀ package ∈ descriptor.package, IsPlain package := by
  intro package isPackage
  have trimmed := descriptor.package_trimmed
  rw [Option.mem_def.1 isPackage, trimPackage_eq, Option.getD_some] at trimmed
  split at trimmed
  · cases trimmed
  next nonblank =>
    rw [Option.some.injEq] at trimmed
    exact ⟨trimmed, trimmed ▸ nonblank⟩

/-! ## Queries -/

/-- The query that a kind makes of a value and a package. -/
inductive Asks : SelectorKind → String → Option String → Selector → Prop where
  | resource (package id : String) : Asks .resourceId id (some package) (.resource package id)
  | className (package : Option String) (name : String) :
      Asks .className name package (.className package name)
  | text (pattern : Pattern) : Asks .text pattern.source none (.text pattern)
  | textContains (fragment : String) : Asks .textContains fragment none (.textContains fragment)
  | description (pattern : Pattern) :
      Asks .description pattern.source none (.description pattern)

theorem asks_of_queryOf {query : Selector} (nonblank : value ≠ "")
    (denotes : queryOf kind value package = .ok query) : Asks kind value package query := by
  cases kind with
  | resourceId =>
      cases package with
      | none => simp [queryOf, nonblank] at denotes
      | some package =>
          obtain rfl : .resource package value = query := by simpa [queryOf, nonblank] using denotes
          exact .resource package value
  | className =>
      obtain rfl : .className package value = query := by simpa [queryOf, nonblank] using denotes
      exact .className package value
  | textContains =>
      cases package with
      | some package => simp [queryOf, nonblank] at denotes
      | none =>
          obtain rfl : .textContains value = query := by simpa [queryOf, nonblank] using denotes
          exact .textContains value
  | text =>
      obtain ⟨rfl, pattern, compiled, rfl⟩ :=
        (SelectorKind.Compares.text.queryOf_eq_ok_iff nonblank).1 denotes
      rw [← Pattern.source_of_ofSource? compiled]
      exact .text pattern
  | description =>
      obtain ⟨rfl, pattern, compiled, rfl⟩ :=
        (SelectorKind.Compares.description.queryOf_eq_ok_iff nonblank).1 denotes
      rw [← Pattern.source_of_ofSource? compiled]
      exact .description pattern

/-! ## Building -/

theorem ofParts_eq_error_iff {error : ConfigError} :
    ofParts kind value package = .error error ↔
      queryOf kind (Text.trim value) (trimPackage package) = .error error := by
  rw [ofParts]
  split
  next refused => simp [refused]
  next denotes => simp [denotes]

/-- What is built of parts depends on what is left of them without their padding. -/
theorem ofParts_congr {other : String} {otherPackage : Option String}
    (sameValue : Text.trim other = Text.trim value)
    (samePackage : trimPackage otherPackage = trimPackage package) :
    ofParts kind other otherPackage = ofParts kind value package := by
  cases built : ofParts kind value package with
  | error error =>
      rw [ofParts_eq_error_iff, sameValue, samePackage]
      exact ofParts_eq_error_iff.1 built
  | ok descriptor =>
      rw [ofParts_eq_ok_iff, sameValue, samePackage]
      exact ofParts_eq_ok_iff.1 built

/-- A descriptor whose parts have no padding, suit each other, make up its query and build
it again. -/
structure IsNormal (descriptor : Descriptor) : Prop where
  value : Text.IsTight descriptor.value
  package : ∀ package ∈ descriptor.package, Text.IsTight package
  admits : AdmitsPackage descriptor.kind descriptor.package
  asks : Asks descriptor.kind descriptor.value descriptor.package descriptor.query
  rebuilt : ofParts descriptor.kind descriptor.value descriptor.package = .ok descriptor

theorem isNormal (descriptor : Descriptor) : descriptor.IsNormal where
  value := isPlain_iff_isTight.1 ⟨descriptor.value_trimmed, descriptor.value_ne_empty⟩
  package := fun package isPackage =>
    isPlain_iff_isTight.1 (descriptor.isPlain_of_mem_package package isPackage)
  admits := (exists_queryOf_iff.1 ⟨_, descriptor.denotes⟩).2.2
  asks := asks_of_queryOf descriptor.value_ne_empty descriptor.denotes
  rebuilt := ofParts_eq_ok_iff.2
    ⟨rfl, descriptor.value_trimmed.symm, descriptor.package_trimmed.symm⟩

/-- What is built of parts has the kind that was asked for, and the value and the package
without their padding, and is a normal form.  Parts that are the same but for padding, where
a blank package is as good as none, build the same or are refused in the same way. -/
theorem ofParts_normalizes (kind : SelectorKind) (value : String) (package : Option String) :
    (∀ descriptor, ofParts kind value package = .ok descriptor →
      descriptor.kind = kind ∧ descriptor.value = Text.trim value ∧
        descriptor.package.getD "" = Text.trim (package.getD "") ∧ descriptor.IsNormal) ∧
    ∀ other otherPackage, Text.trim other = Text.trim value →
      Text.trim (otherPackage.getD "") = Text.trim (package.getD "") →
        ofParts kind other otherPackage = ofParts kind value package := by
  refine ⟨fun descriptor built => ?_, fun other otherPackage sameValue samePackage => ?_⟩
  · obtain ⟨sameKind, sameValue, samePackage⟩ := ofParts_eq_ok_iff.1 built
    refine ⟨sameKind, sameValue, ?_, descriptor.isNormal⟩
    rw [samePackage, getD_trimPackage]
  · refine ofParts_congr sameValue ?_
    rw [trimPackage_eq, trimPackage_eq, samePackage]

/-- An ideographic space, a tab and a next line are all left out. -/
theorem ofParts_normalizes_paddedResource :
    ∃ descriptor,
      ofParts .resourceId "\u3000row one\t" (some "\u0085com.app") = .ok descriptor ∧
        descriptor.IsNormal ∧ descriptor.value = "row one" ∧
        descriptor.package.getD "" = "com.app" ∧
        descriptor.query = .resource "com.app" "row one" ∧
        ofParts .resourceId "\u2009row one" (some "com.app \n") = .ok descriptor := by
  let descriptor : Descriptor :=
    ⟨.resourceId, "row one", some "com.app", .resource "com.app" "row one", by decide +kernel,
      by decide +kernel, rfl⟩
  have built : ofParts .resourceId "\u3000row one\t" (some "\u0085com.app") = .ok descriptor :=
    ofParts_eq_ok_iff.2 ⟨rfl, by decide +kernel, by decide +kernel⟩
  obtain ⟨normalizes, agrees⟩ :=
    ofParts_normalizes .resourceId "\u3000row one\t" (some "\u0085com.app")
  obtain ⟨-, -, -, normal⟩ := normalizes descriptor built
  exact ⟨descriptor, built, normal, rfl, rfl, rfl,
    (agrees _ _ (by decide +kernel) (by decide +kernel)).trans built⟩

/-- A blank package is none. -/
example : (ofParts .className "Switch" (some " \t")).toOption.map (·.package) = some none := by
  decide +kernel

end Descriptor

end Screenplay
