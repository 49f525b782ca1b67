import Screenplay.Config.Document
import Screenplay.Proofs.Text.Numeral

/-!
# Properties of objects

What an object says, apart from how it is read.  A property is read from one member
of its object: the one with exactly its name or, if there is none, the first whose
name is the same without padding.  A property that is read as `null` is absent.

Each small reader is characterised by what it accepts and what it makes of it, so
that later proofs never open one.
-/

namespace Screenplay.Document

/-- The value from which a property is read. -/
inductive ReadFrom (members : Members) (name : String) (value : Json) : Prop where
  | exact (before after : Members)
      (split : members = before ++ (name, value) :: after)
      (first : ∀ member ∈ before, member.1 ≠ name)
  | padded (written : String) (before after : Members)
      (split : members = before ++ (written, value) :: after)
      (padding : Text.trim written = name)
      (first : ∀ member ∈ before, Text.trim member.1 ≠ name)
      (inexact : ∀ member ∈ members, member.1 ≠ name)

/-- An object gives a property a value, which is not `null`. -/
def Gives (members : Members) (name : String) (value : Json) : Prop :=
  ReadFrom members name value ∧ value ≠ .null

/-- A property is absent from an object. -/
def Lacks (members : Members) (name : String) : Prop :=
  ∀ value, ¬ Gives members name value

/-- An object has to give a property a value of some form. -/
def Requires (members : Members) (name : String) (form : Json → Prop) : Prop :=
  ∃ value, Gives members name value ∧ form value

/-- An object may give a property a value of some form. -/
def Permits (members : Members) (name : String) (form : Json → Prop) : Prop :=
  Lacks members name ∨ Requires members name form

/-- A value is an object whose members are of some form. -/
def IsObject (form : Members → Prop) (value : Json) : Prop :=
  ∃ members, value = .object members ∧ form members

/-- A value is a text that reads so without its padding. -/
def Spells (text : String) (value : Json) : Prop :=
  ∃ written, value = .text written ∧ Text.trim written = text

/-- The member names of an object are all among the allowed ones, but for padding. -/
def NamedAmong (allowed : List String) (members : Members) : Prop :=
  ∀ member ∈ members, Text.trim member.1 ∈ allowed

/-! ## Reading properties -/

theorem isNull_eq_false_iff {value : Json} : value.isNull = false ↔ value ≠ .null := by
  cases value <;> simp [Json.isNull]

theorem readFrom_iff {members : Members} {name : String} {value : Json} :
    ReadFrom members name value ↔
      (members.lookup name <|>
        (members.find? fun member => Text.trim member.1 == name).map Prod.snd) =
          some value := by
  constructor
  · intro read
    cases read with
    | exact before after split first =>
        have found : members.lookup name = some value :=
          List.lookup_eq_some_iff.2 ⟨before, after, split, fun member among => by
            simpa using fun same => first member among same.symm⟩
        simp [found]
    | padded written before after split padding first inexact =>
        have missed : members.lookup name = none :=
          List.lookup_eq_none_iff.2 fun member among => by
            simpa using fun same => inexact member among same.symm
        have found : (members.find? fun member => Text.trim member.1 == name) =
            some (written, value) :=
          List.find?_eq_some_iff_append.2
            ⟨by simpa using padding, before, after, split, fun member among => by
              simpa using first member among⟩
        simp [missed, found]
  · intro read
    cases unpadded : members.lookup name with
    | some found =>
        have same : found = value := by simpa [unpadded] using read
        subst found
        rcases List.lookup_eq_some_iff.1 unpadded with ⟨before, after, split, first⟩
        exact .exact before after split fun member among same => by
          simpa [same] using first member among
    | none =>
        obtain ⟨⟨written, found⟩, isFound, same⟩ : ∃ member,
            (members.find? fun member => Text.trim member.1 == name) = some member ∧
              member.2 = value := by
          simpa [unpadded] using read
        rcases List.find?_eq_some_iff_append.1 isFound with ⟨padding, before, after, split, first⟩
        subst same
        refine .padded written before after split (by simpa using padding)
          (fun member among => by simpa using first member among) ?_
        intro member among same
        simpa [same] using List.lookup_eq_none_iff.1 unpadded member among

theorem property?_eq_some_iff {members : Members} {name : String} {value : Json} :
    property? members name = some value ↔ Gives members name value := by
  simp only [property?, Gives, Option.filter_eq_some_iff, readFrom_iff]
  rw [Bool.not_eq_true', isNull_eq_false_iff]

theorem property?_eq_none_iff {members : Members} {name : String} :
    property? members name = none ↔ Lacks members name := by
  simp only [Lacks, ← property?_eq_some_iff, Option.eq_none_iff_forall_ne_some, ne_eq]

/-- A property is read from at most one member. -/
theorem ReadFrom.unique {members : Members} {name : String} {left right : Json}
    (first : ReadFrom members name left) (second : ReadFrom members name right) : left = right :=
  Option.some.inj ((readFrom_iff.1 first).symm.trans (readFrom_iff.1 second))

/-- A property has at most one value. -/
theorem Gives.unique {members : Members} {name : String} {left right : Json}
    (first : Gives members name left) (second : Gives members name right) : left = right :=
  first.1.unique second.1

end Screenplay.Document
