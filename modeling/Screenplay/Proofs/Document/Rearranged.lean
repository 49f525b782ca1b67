import Screenplay.Proofs.Document.Description
import Screenplay.Proofs.NameMap

/-!
# Documents with their members in any order

A writer lists the members of an object in the order of its format, and whoever keeps
the document may sort them.  What is said here of a document that was written holds
of every document that differs from it in the order of members only.

The members that are written are tidy: their names have no padding and differ.  For
tidy members the rules of reading properties come down to membership.
-/

namespace Screenplay

/-- The same value, with the members of its objects in any order. -/
inductive Json.Rearranged : Json → Json → Prop where
  | same (value : Json) : Rearranged value value
  | array {items others : List Json} (each : List.Forall₂ Rearranged items others) :
      Rearranged (.array items) (.array others)
  | object {members others : List (String × Json)}
      (names : (others.map Prod.fst).Perm (members.map Prod.fst))
      (values : ∀ name value other, (name, value) ∈ members → (name, other) ∈ others →
        Rearranged value other) :
      Rearranged (.object members) (.object others)

namespace Document

open Json (Rearranged)

/-- Members whose names have no padding and differ. -/
structure Tidy (members : Members) : Prop where
  distinct : (members.map Prod.fst).Nodup
  unpadded : ∀ name ∈ members.map Prod.fst, Text.trim name = name

/-- Members that are the same as others but for order, as are their values. -/
structure Reorders (members others : Members) : Prop where
  names : (others.map Prod.fst).Perm (members.map Prod.fst)
  values : ∀ name value other, (name, value) ∈ members → (name, other) ∈ others →
    Rearranged value other

/-- Members with some of the names of a format are tidy, since that is so of all its
names. -/
theorem Tidy.of_sublist {names : List String} {members : Members}
    (some : (members.map Prod.fst).Sublist names) (distinct : names.Nodup)
    (unpadded : ∀ name ∈ names, Text.trim name = name) : Tidy members :=
  ⟨some.nodup distinct, fun name member => unpadded name (some.subset member)⟩

/-! ## Values -/

theorem eq_of_rearranged_text {text : String} {value : Json}
    (rearranged : Rearranged (.text text) value) : value = .text text := by
  cases rearranged
  rfl

theorem eq_of_rearranged_number {number : Json.Number} {value : Json}
    (rearranged : Rearranged (.number number) value) : value = .number number := by
  cases rearranged
  rfl

theorem ne_null_of_rearranged {value other : Json} (rearranged : Rearranged value other)
    (present : value ≠ .null) : other ≠ .null := by
  cases rearranged with
  | same => exact present
  | array | object => simp

theorem exists_of_rearranged_array {items : List Json} {value : Json}
    (rearranged : Rearranged (.array items) value) :
    ∃ others, value = .array others ∧ List.Forall₂ Rearranged items others := by
  cases rearranged with
  | same => exact ⟨items, rfl, List.forall₂_same.2 fun item _ => .same item⟩
  | array each => exact ⟨_, rfl, each⟩

/-- A name stands for one value only. -/
theorem eq_of_mem_of_nodup {members : Members} (distinct : (members.map Prod.fst).Nodup)
    {name : String} {left right : Json} (first : (name, left) ∈ members)
    (second : (name, right) ∈ members) : left = right :=
  Option.some.inj
    (((lookup_eq_some_iff_of_nodup distinct).2 first).symm.trans
      ((lookup_eq_some_iff_of_nodup distinct).2 second))

theorem exists_of_rearranged_object {members : Members}
    (distinct : (members.map Prod.fst).Nodup) {value : Json}
    (rearranged : Rearranged (.object members) value) :
    ∃ others, value = .object others ∧ Reorders members others := by
  cases rearranged with
  | same =>
      refine ⟨members, rfl, .refl _, fun name value other member among => ?_⟩
      rw [eq_of_mem_of_nodup distinct member among]
      exact .same other
  | object names values => exact ⟨_, rfl, names, values⟩

theorem rearranged_of_perm {members others : Members} (distinct : (members.map Prod.fst).Nodup)
    (same : others.Perm members) : Rearranged (.object members) (.object others) := by
  refine .object (same.map Prod.fst) fun name value other isMember isOther => ?_
  rw [eq_of_mem_of_nodup distinct isMember (same.mem_iff.1 isOther)]
  exact .same other

/-! ## Properties -/

theorem Tidy.gives {members : Members} (tidy : Tidy members) {name : String} {value : Json}
    (member : (name, value) ∈ members) (present : value ≠ .null) : Gives members name value := by
  rcases List.append_of_mem member with ⟨before, after, rfl⟩
  refine ⟨.exact before after rfl fun earlier among same => ?_, present⟩
  have distinct := tidy.distinct
  rw [List.map_append, List.nodup_append] at distinct
  exact distinct.2.2 _ (List.mem_map_of_mem among) _ (by simp) same

theorem Tidy.lacks {members : Members} (tidy : Tidy members) {name : String}
    (absent : name ∉ members.map Prod.fst) : Lacks members name := by
  intro value gives
  rcases gives with ⟨read, -⟩
  cases read with
  | exact before after split first =>
      exact absent (by simp [split])
  | padded written before after split padding first inexact =>
      have among : written ∈ members.map Prod.fst := by simp [split]
      rw [tidy.unpadded written among] at padding
      exact absent (padding ▸ among)

namespace Reorders

variable {members others : Members}

theorem tidy (reorders : Reorders members others) (tidy : Tidy members) : Tidy others :=
  ⟨reorders.names.nodup_iff.2 tidy.distinct,
    fun name member => tidy.unpadded name (reorders.names.mem_iff.1 member)⟩

theorem namedAmong (reorders : Reorders members others) (tidy : Tidy members)
    {allowed : List String} (among : ∀ name ∈ members.map Prod.fst, name ∈ allowed) :
    NamedAmong allowed others := by
  intro member isMember
  have named := reorders.names.mem_iff.1 (List.mem_map_of_mem isMember)
  rw [tidy.unpadded _ named]
  exact among _ named

theorem requires (reorders : Reorders members others) (tidy : Tidy members) {name : String}
    {value : Json} (member : (name, value) ∈ members) (present : value ≠ .null)
    {form : Json → Prop} (formed : ∀ other, Rearranged value other → form other) :
    Requires others name form := by
  have named : name ∈ others.map Prod.fst :=
    reorders.names.mem_iff.2 (List.mem_map_of_mem member)
  rcases List.mem_map.1 named with ⟨⟨_, other⟩, among, rfl⟩
  have rearranged := reorders.values _ _ _ member among
  exact ⟨other, (reorders.tidy tidy).gives among (ne_null_of_rearranged rearranged present),
    formed other rearranged⟩

theorem lacks (reorders : Reorders members others) (tidy : Tidy members) {name : String}
    (absent : name ∉ members.map Prod.fst) : Lacks others name :=
  (reorders.tidy tidy).lacks fun member => absent (reorders.names.mem_iff.1 member)

/-- A property that is written only when there is something to write. -/
theorem holds {α : Type} (reorders : Reorders members others) (tidy : Tidy members)
    {name : String} {write : α → Json} {result : Option α}
    (member : ∀ value, result = some value → (name, write value) ∈ members)
    (absent : result = none → name ∉ members.map Prod.fst)
    (present : ∀ value, write value ≠ .null) {form : α → Json → Prop}
    (formed : ∀ value, result = some value →
      ∀ other, Rearranged (write value) other → form value other) :
    Holds others name form result := by
  cases result with
  | none => exact reorders.lacks tidy (absent rfl)
  | some value =>
      exact reorders.requires tidy (member value rfl) (present value) (formed value rfl)

end Reorders

end Document

end Screenplay
