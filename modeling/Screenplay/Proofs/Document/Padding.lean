import Mathlib.Data.List.TakeWhile
import Screenplay.Proofs.Document.Alike
import Screenplay.Proofs.Document.Shadowing

/-!
# Padding

Blanks may be put around the names and the texts of a document, or taken away from there.
Since the members of an object are kept in the order of their written names, they may have to
change places for it.  As long as the names of each object differ without their padding, the
document is read as the same configuration.
-/

namespace Screenplay

/-- Texts that differ at most in the blanks around them. -/
def Text.Repadded (text other : String) : Prop :=
  ∃ core before after otherBefore otherAfter : List Char,
    (∀ character ∈ before ++ after ++ (otherBefore ++ otherAfter), isBlank character = true) ∧
      text.toList = before ++ core ++ after ∧ other.toList = otherBefore ++ core ++ otherAfter

namespace Json

/-- Values that differ at most in the blanks around their texts and the names of their
members, and in the order of members. -/
inductive Repadded : Json → Json → Prop where
  | same (value : Json) : Repadded value value
  | text {text other : String} (padding : Text.Repadded text other) :
      Repadded (.text text) (.text other)
  | array {items others : List Json} (each : List.Forall₂ Repadded items others) :
      Repadded (.array items) (.array others)
  | object {members renamed others : List (String × Json)}
      (names : List.Forall₂ Text.Repadded (members.map Prod.fst) (renamed.map Prod.fst))
      (values : List.Forall₂ Repadded (members.map Prod.snd) (renamed.map Prod.snd))
      (order : renamed.Perm others) : Repadded (.object members) (.object others)

/-- In no object of a value are there two members with the same name but for padding. -/
inductive DistinctNames : Json → Prop where
  | null : DistinctNames .null
  | bool (value : Bool) : DistinctNames (.bool value)
  | number (value : Number) : DistinctNames (.number value)
  | text (value : String) : DistinctNames (.text value)
  | array {items : List Json} (each : ∀ item ∈ items, DistinctNames item) :
      DistinctNames (.array items)
  | object {members : List (String × Json)} (distinct : Document.Unshadowed members)
      (each : ∀ member ∈ members, DistinctNames member.2) : DistinctNames (.object members)

end Json

/-! ## Texts -/

namespace Text

/-- Blanks at the end are dropped with the others from there. -/
theorem dropWhile_isBlank_append {core after : List Char}
    (blank : ∀ character ∈ after, isBlank character = true) :
    ((core ++ after).dropWhile isBlank).reverse.dropWhile isBlank =
      (core.dropWhile isBlank).reverse.dropWhile isBlank := by
  rw [List.dropWhile_append]
  split
  next allBlank =>
    rw [List.isEmpty_iff.1 allBlank, List.dropWhile_eq_nil_iff.2 blank]
  next =>
    rw [List.reverse_append, List.dropWhile_append_of_pos]
    simpa using blank

theorem trimChars_padded {before core after : List Char}
    (blank : ∀ character ∈ before ++ after, isBlank character = true) :
    trimChars (before ++ core ++ after) = trimChars core := by
  rw [List.forall_mem_append] at blank
  rw [trimChars, List.append_assoc, List.dropWhile_append_of_pos blank.1,
    dropWhile_isBlank_append blank.2, trimChars]

theorem Repadded.trim_eq {text other : String} (repadded : Repadded text other) :
    trim other = trim text := by
  obtain ⟨core, before, after, otherBefore, otherAfter, blank, same, otherSame⟩ := repadded
  rw [List.forall_mem_append] at blank
  rw [trim, trim, same, otherSame, trimChars_padded blank.1, trimChars_padded blank.2]

end Text

namespace Document

open Json (Repadded DistinctNames)

variable {members others : Members} {value other : Json}

/-! ## Values -/

/-- Two lists of members agree if their names and their values do. -/
theorem forall₂_members {named : String → String → Prop} {valued : Json → Json → Prop}
    (names : List.Forall₂ named (members.map Prod.fst) (others.map Prod.fst))
    (values : List.Forall₂ valued (members.map Prod.snd) (others.map Prod.snd)) :
    List.Forall₂ (fun member other => named member.1 other.1 ∧ valued member.2 other.2)
      members others := by
  rw [List.forall₂_map_left_iff, List.forall₂_map_right_iff] at names values
  induction names with
  | nil => exact .nil
  | cons name _ ih =>
      cases values with
      | cons value values => exact .cons ⟨name, value⟩ (ih values)

/-- Members that agree but for padding, in any order. -/
structure RepadsMembers (members others : Members) : Prop where
  original : ∀ other ∈ others, ∃ member ∈ members,
    Text.trim member.1 = Text.trim other.1 ∧ Repadded member.2 other.2
  complete : ∀ member ∈ members, ∃ other ∈ others,
    Text.trim other.1 = Text.trim member.1 ∧ Repadded member.2 other.2
  unshadowed : Unshadowed members → Unshadowed others

theorem exists_of_repadded_object (repadded : Repadded (.object members) value) :
    ∃ others, value = .object others ∧ RepadsMembers members others := by
  cases repadded with
  | same =>
      refine ⟨members, rfl, ?_, ?_, id⟩
      · exact fun other among => ⟨other, among, rfl, .same _⟩
      · exact fun member among => ⟨member, among, rfl, .same _⟩
  | @object _ renamed others names values order =>
      have each := forall₂_members names values
      refine ⟨others, rfl, ?_, ?_, ?_⟩
      · intro other among
        obtain ⟨member, isMember, padding, repadded⟩ :=
          exists_of_forall₂_of_mem each.flip (order.mem_iff.2 among)
        exact ⟨member, isMember, padding.trim_eq.symm, repadded⟩
      · intro member isMember
        obtain ⟨other, among, padding, repadded⟩ := exists_of_forall₂_of_mem each isMember
        exact ⟨other, order.mem_iff.1 among, padding.trim_eq, repadded⟩
      · intro distinct
        have sameNames : members.map (fun member => Text.trim member.1) =
            renamed.map fun member => Text.trim member.1 := by
          rw [← List.forall₂_eq_eq_eq, List.forall₂_map_left_iff, List.forall₂_map_right_iff]
          exact each.imp fun _ _ padded => padded.1.trim_eq.symm
        rw [Unshadowed, ← (order.map _).nodup_iff, ← sameNames]
        exact distinct

theorem exists_of_repadded_array {items : List Json} (repadded : Repadded (.array items) value) :
    ∃ others, value = .array others ∧ List.Forall₂ Repadded items others := by
  cases repadded with
  | same => exact ⟨items, rfl, List.forall₂_same.2 fun item _ => .same item⟩
  | array each => exact ⟨_, rfl, each⟩

theorem eq_null_iff_of_repadded (repadded : Repadded value other) :
    value = .null ↔ other = .null := by
  cases repadded <;> simp

/-- Names that differ still do so with other padding. -/
theorem distinctNames_of_repadded (distinct : value.DistinctNames)
    (repadded : Repadded value other) : other.DistinctNames := by
  induction distinct generalizing other with
  | null =>
      cases repadded
      exact .null
  | bool value =>
      cases repadded
      exact .bool value
  | number value =>
      cases repadded
      exact .number value
  | text value =>
      cases repadded
      · exact .text _
      · exact .text _
  | array _ ih =>
      obtain ⟨others, rfl, each⟩ := exists_of_repadded_array repadded
      refine .array fun other among => ?_
      obtain ⟨item, isItem, repadded⟩ := exists_of_forall₂_of_mem each.flip among
      exact ih item isItem repadded
  | object distinct _ ih =>
      obtain ⟨others, rfl, repads⟩ := exists_of_repadded_object repadded
      refine .object (repads.unshadowed distinct) fun other among => ?_
      obtain ⟨member, isMember, -, repadded⟩ := repads.original other among
      exact ih member isMember repadded

/-! ## Reading -/

/-- Members that are repadded give the same properties, since each is the one that its
property is read from. -/
theorem RepadsMembers.alike (repads : RepadsMembers members others)
    (distinct : Unshadowed members) (each : ∀ member ∈ members, member.2.DistinctNames) :
    MembersAlike (fun value other => value.DistinctNames ∧ Repadded value other) members
      others where
  gives := by
    rintro name value plain ⟨read, present⟩
    obtain ⟨written, isMember⟩ := readFrom_iff_memberOf?.1 read
    have among := mem_of_memberOf? isMember
    obtain ⟨other, isOther, sameName, repadded⟩ := repads.complete _ among
    rw [trim_of_memberOf? plain isMember] at sameName
    -- With other padding a name may be the written one or not, which makes no difference
    -- as long as only one member has it.
    have readOther := (repads.unshadowed distinct).readFrom isOther
    rw [sameName] at readOther
    refine ⟨other.2, ⟨readOther, ?_⟩, each _ among, repadded⟩
    exact mt (eq_null_iff_of_repadded repadded).2 present
  lacks := by
    rintro name plain lacks value ⟨read, present⟩
    obtain ⟨written, isOther⟩ := readFrom_iff_memberOf?.1 read
    obtain ⟨member, isMember, sameName, repadded⟩ :=
      repads.original _ (mem_of_memberOf? isOther)
    rw [trim_of_memberOf? plain isOther] at sameName
    have readMember := distinct.readFrom isMember
    rw [sameName] at readMember
    exact lacks member.2 ⟨readMember, mt (eq_null_iff_of_repadded repadded).1 present⟩
  names := by
    intro other among
    obtain ⟨member, isMember, sameName, -⟩ := repads.original other among
    exact ⟨member, isMember, sameName⟩
  entries := by
    intro defines
    refine ⟨⟨?_, ?_⟩, ?_, ?_⟩
    · intro other among
      obtain ⟨member, isMember, sameName, -⟩ := repads.original other among
      exact sameName ▸ defines.named member isMember
    · rw [List.map_map]
      exact repads.unshadowed distinct
    · intro other among
      obtain ⟨member, isMember, sameName, repadded⟩ := repads.original other among
      exact ⟨member, isMember, sameName, each member isMember, repadded⟩
    · intro member isMember
      obtain ⟨other, among, sameName, -⟩ := repads.complete member isMember
      exact ⟨other, among, sameName⟩

/-- A value that is repadded is read as the same. -/
theorem readsAlike_repadded :
    ReadsAlike fun value other => value.DistinctNames ∧ Repadded value other where
  text := by
    rintro written other ⟨-, repadded⟩
    cases repadded with
    | same => exact ⟨written, rfl, rfl⟩
    | text padding => exact ⟨_, rfl, padding.trim_eq⟩
  number := by
    rintro number other ⟨-, repadded⟩
    cases repadded
    rfl
  array := by
    rintro items other ⟨distinct, repadded⟩
    obtain ⟨others, rfl, each⟩ := exists_of_repadded_array repadded
    cases distinct with
    | array distinctItems =>
        exact ⟨others, rfl, (List.forall₂_and_left _ _).2 ⟨distinctItems, each⟩⟩
  object := by
    rintro members other ⟨distinct, repadded⟩
    obtain ⟨others, rfl, repads⟩ := exists_of_repadded_object repadded
    cases distinct with
    | object distinct each => exact ⟨others, rfl, repads.alike distinct each⟩

end Document

open Document

/-- An accepted document in whose objects no two names are the same but for padding is read as
the same configuration with any other padding, with which its names still differ. -/
theorem Config.ofJson_repadded {value other : Json} {config : Config}
    (accepted : ofJson value = .ok config) (distinct : value.DistinctNames)
    (repadded : value.Repadded other) :
    ofJson other = .ok config ∧ other.DistinctNames :=
  ⟨Document.readsAlike_repadded.ofJson ⟨distinct, repadded⟩ accepted,
    Document.distinctNames_of_repadded distinct repadded⟩

/-- A section of two commands with padding. -/
def paddedCommands : Members :=
  [(" HOME", .text "go home "), ("BACK", .text "leave")]

/-- The same commands without padding. -/
def plainCommands : Members :=
  [("BACK", .text "leave"), ("HOME", .text "go home")]

theorem Config.ofJson_repadded_paddedCommands :
    ∃ config, ofJson (.object [("COMMANDS ", .object paddedCommands)]) = .ok config ∧
      (Json.object [("COMMANDS", .object plainCommands)]).DistinctNames ∧
      ofJson (.object [("COMMANDS", .object plainCommands)]) = .ok config := by
  have unpad : ∀ before core after text : String, before ++ core ++ after = text →
      Text.isBlankText (before ++ after) = true → Text.Repadded text core := by
    rintro before core after _ rfl blank
    refine ⟨core.toList, before.toList, after.toList, [], [], ?_, by simp, by simp⟩
    simpa [Text.isBlankText, or_imp, forall_and] using blank
  have home : Text.Repadded " HOME" "HOME" := unpad " " "HOME" "" _ (by decide) (by decide)
  have back : Text.Repadded "BACK" "BACK" := unpad "" "BACK" "" _ (by decide) (by decide)
  have goHome : Text.Repadded "go home " "go home" :=
    unpad "" "go home" " " _ (by decide) (by decide)
  have header : Text.Repadded "COMMANDS " "COMMANDS" :=
    unpad "" "COMMANDS" " " _ (by decide) (by decide)
  have commands : (Json.object paddedCommands).Repadded (.object plainCommands) :=
    @Json.Repadded.object _ [("HOME", .text "go home"), ("BACK", .text "leave")] _
      (.cons home (.cons back .nil)) (.cons (.text goHome) (.cons (.same _) .nil))
      (.swap _ _ _)
  have repadded : (Json.object [("COMMANDS ", .object paddedCommands)]).Repadded
      (.object [("COMMANDS", .object plainCommands)]) :=
    @Json.Repadded.object _ [("COMMANDS", .object plainCommands)] _
      (.cons header .nil) (.cons commands .nil) (.refl _)
  have distinct : (Json.object [("COMMANDS ", .object paddedCommands)]).DistinctNames := by
    refine .object (by rw [Unshadowed]; decide) ?_
    rw [List.forall_mem_singleton]
    refine .object (by rw [Unshadowed]; decide) ?_
    rw [paddedCommands, List.forall_mem_cons, List.forall_mem_singleton]
    exact ⟨.text _, .text _⟩
  obtain ⟨accepted, stillDistinct⟩ := @ofJson_repadded _ _ _ rfl distinct repadded
  exact ⟨_, rfl, stillDistinct, accepted⟩

end Screenplay
