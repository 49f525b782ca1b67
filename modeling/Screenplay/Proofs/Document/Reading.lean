import Screenplay.Proofs.Document.Numeral

/-!
# Small readers

What the readers of single properties accept, and what they make of it.  A reader
stops at its first error; a sequence of readers accepts a value exactly when each of
them accepts its part.
-/

namespace Screenplay

/-! ## Computations that may fail -/

theorem bind_eq_of_ok {ε α β : Type} {first : Except ε α} {value : α} (isOk : first = .ok value)
    (next : α → Except ε β) : (first >>= next) = next value := by
  rw [isOk]
  rfl

theorem bind_eq_ok_iff {ε α β : Type} {first : Except ε α} {next : α → Except ε β}
    {result : β} :
    (first >>= next) = .ok result ↔ ∃ middle, first = .ok middle ∧ next middle = .ok result := by
  cases first <;> simp [bind, Except.bind]

theorem map_eq_ok_iff {ε α β : Type} {first : Except ε α} {image : α → β} {result : β} :
    (image <$> first) = .ok result ↔ ∃ middle, first = .ok middle ∧ image middle = result := by
  cases first <;> simp [Functor.map, Except.map]

theorem mapError_eq_ok_iff {ε δ α : Type} {first : Except ε α} {change : ε → δ} {result : α} :
    first.mapError change = .ok result ↔ first = .ok result := by
  cases first with
  | ok value =>
      constructor
      · intro same
        cases same
        rfl
      · intro same
        cases same
        rfl
  | error error =>
      constructor
      · intro impossible
        cases impossible
      · intro impossible
        cases impossible

theorem pure_eq_ok_iff {ε α : Type} {value result : α} :
    (pure value : Except ε α) = .ok result ↔ value = result := by
  simp [pure, Except.pure]

/-- A check that is passed before the rest is computed. -/
theorem guard_eq_ok_iff {ε α : Type} {refused : Bool} {error : ε} {next : Except ε α}
    {result : α} :
    (do
      if refused then throw error
      next : Except ε α) = .ok result ↔ refused = false ∧ next = .ok result := by
  cases refused <;> simp [throw, throwThe, MonadExceptOf.throw, bind, Except.bind]

/-- What fails does not give a result. -/
theorem exists_eq_error_iff {ε α : Type} {computed : Except ε α} :
    (∃ error, computed = .error error) ↔ ∀ result, computed ≠ .ok result := by
  cases computed <;> simp

theorem bind_eq_error_iff {ε α β : Type} {first : Except ε α} {next : α → Except ε β}
    {error : ε} :
    (first >>= next) = .error error ↔
      first = .error error ∨ ∃ middle, first = .ok middle ∧ next middle = .error error := by
  cases first <;> simp [bind, Except.bind]

theorem map_eq_error_iff {ε α β : Type} {first : Except ε α} {image : α → β} {error : ε} :
    (image <$> first) = .error error ↔ first = .error error := by
  cases first <;> simp [Functor.map, Except.map]

theorem mapError_eq_error_iff {ε δ α : Type} {first : Except ε α} {change : ε → δ} {error : δ} :
    first.mapError change = .error error ↔
      ∃ cause, first = .error cause ∧ change cause = error := by
  cases first with
  | ok value =>
      constructor
      · intro impossible
        cases impossible
      · intro holds
        rcases holds with ⟨_, impossible, _⟩
        cases impossible
  | error cause =>
      constructor
      · intro same
        cases same
        exact ⟨cause, rfl, rfl⟩
      · intro holds
        rcases holds with ⟨_, same, rfl⟩
        cases same
        rfl

/-- A check that is not passed gives its error, and else the rest is computed. -/
theorem guard_eq_error_iff {ε α : Type} {refused : Bool} {error other : ε} {next : Except ε α} :
    (do
      if refused then throw error
      next : Except ε α) = .error other ↔
      (refused = true ∧ error = other) ∨ (refused = false ∧ next = .error other) := by
  cases refused <;> simp [throw, throwThe, MonadExceptOf.throw, bind, Except.bind]

namespace Document

/-! ## Small readers -/

theorem asObject_eq_ok_iff {context : String} {value : Json} {members : Members} :
    asObject context value = .ok members ↔ value = .object members := by
  cases value <;> simp [asObject]

theorem checkNames_eq_ok_iff {allowed : List String} {context : String} {members : Members}
    {result : Unit} :
    checkNames allowed context members = .ok result ↔ NamedAmong allowed members := by
  have unknown :
      ((members.map fun member => Text.trim member.1).filter (!allowed.contains ·)) = [] ↔
        NamedAmong allowed members := by
    rw [List.filter_eq_nil_iff, List.forall_mem_map]
    simp [NamedAmong]
  rw [← unknown, checkNames]
  split <;> simp_all

theorem property_eq_ok_iff {context name : String} {members : Members} {value : Json} :
    property context name members = .ok value ↔ Gives members name value := by
  rw [← property?_eq_some_iff, property]
  split <;> simp_all

theorem asText_eq_ok_iff {context : String} {value : Json} {text : String} :
    asText context value = .ok text ↔ Spells text value ∧ text ≠ "" := by
  cases value with
  | text written =>
      by_cases blank : Text.trim written = ""
      · have refused : asText context (.text written) =
            .error (invalid context (.text written) "expected a non-empty string") := by
          simp [asText, Json.text?, blank]
        rw [refused]
        constructor
        · intro impossible
          cases impossible
        · intro holds
          rcases holds with ⟨⟨_, same, padding⟩, nonblank⟩
          cases same
          exact (nonblank (padding.symm.trans blank)).elim
      · have accepted : asText context (.text written) = .ok (Text.trim written) := by
          simp [asText, Json.text?, blank]
        rw [accepted, Except.ok.injEq]
        constructor
        · intro same
          subst same
          exact ⟨⟨written, rfl, rfl⟩, blank⟩
        · intro holds
          rcases holds with ⟨⟨_, same, padding⟩, _⟩
          cases same
          exact padding
  | null | bool _ | number _ | array _ | object _ => simp [asText, Json.text?, Spells]

theorem asPackage_eq_ok_iff {context : String} {value : Json} {package : String} :
    asPackage context value = .ok package ↔ value = .text package := by
  cases value <;> simp [asPackage]

theorem textProperty_eq_ok_iff {context name : String} {members : Members} {text : String} :
    textProperty context name members = .ok text ↔
      Requires members name (Spells text) ∧ text ≠ "" := by
  simp only [textProperty, bind_eq_ok_iff, property_eq_ok_iff, asText_eq_ok_iff, Requires]
  constructor
  · intro holds
    rcases holds with ⟨value, gives, spells, nonblank⟩
    exact ⟨⟨value, gives, spells⟩, nonblank⟩
  · intro holds
    rcases holds with ⟨⟨value, gives, spells⟩, nonblank⟩
    exact ⟨value, gives, spells, nonblank⟩

/-- What an object says of a property that it may lack. -/
def Holds {α : Type} (members : Members) (name : String) (form : α → Json → Prop) :
    Option α → Prop
  | none => Lacks members name
  | some result => Requires members name (form result)

theorem exists_holds_iff {α : Type} {members : Members} {name : String}
    {form : α → Json → Prop} {property : Option α → Prop} :
    (∃ result, Holds members name form result ∧ property result) ↔
      (Lacks members name ∧ property none) ∨
        Requires members name fun value =>
          ∃ result, form result value ∧ property (some result) := by
  constructor
  · intro holds
    rcases holds with ⟨none | result, holds, proper⟩
    · exact .inl ⟨holds, proper⟩
    · rcases holds with ⟨value, gives, formed⟩
      exact .inr ⟨value, gives, result, formed, proper⟩
  · intro holds
    rcases holds with ⟨lacks, proper⟩ | ⟨value, gives, result, formed, proper⟩
    · exact ⟨none, lacks, proper⟩
    · exact ⟨some result, ⟨value, gives, formed⟩, proper⟩

theorem optionalProperty_eq_ok_iff {α : Type} {name : String} {members : Members}
    {read : Json → Except ConfigError α} {form : α → Json → Prop}
    (reads : ∀ value result, read value = .ok result ↔ form result value)
    {result : Option α} :
    optionalProperty name members read = .ok result ↔ Holds members name form result := by
  cases absent : property? members name with
  | none =>
      have lacks := property?_eq_none_iff.1 absent
      cases result with
      | none => simp [optionalProperty, absent, Holds, lacks]
      | some result =>
          simp only [optionalProperty, absent, Holds, Requires]
          constructor
          · intro impossible
            cases impossible
          · intro holds
            rcases holds with ⟨value, gives, _⟩
            exact (lacks value gives).elim
  | some value =>
      have gives := property?_eq_some_iff.1 absent
      simp only [optionalProperty, absent, map_eq_ok_iff, reads]
      cases result with
      | none =>
          constructor
          · intro holds
            rcases holds with ⟨_, _, impossible⟩
            cases impossible
          · intro lacks
            exact (lacks value gives).elim
      | some result =>
          constructor
          · intro holds
            rcases holds with ⟨_, formed, same⟩
            cases same
            exact ⟨value, gives, formed⟩
          · intro holds
            rcases holds with ⟨other, givesOther, formed⟩
            rw [← gives.unique givesOther] at formed
            exact ⟨result, formed, rfl⟩

end Document

end Screenplay
