import Mathlib.Data.List.Dedup
import Screenplay.Proofs.Document.Alike
import Screenplay.Proofs.Document.Objects

/-!
# Shadowed members

Several members of an object may have the same name but for padding.  Only one of them
is read, and the others are shadowed by it: nothing is asked of their values, and nothing
comes of them.

A document without its shadowed members is read as the same configuration.  In what is
left, no two members of an object have the same name but for padding, and each member is
the one that its property is read from.
-/

namespace Screenplay

namespace Document

/-- The member that a property is read from. -/
def memberOf? (members : Members) (name : String) : Option (String × Json) :=
  members.find? (·.1 == name) <|> members.find? fun member => Text.trim member.1 == name

/-- The members of an object that are not shadowed, one for each name. -/
def unshadow (members : Members) : Members :=
  (members.map fun member => Text.trim member.1).dedup.filterMap (memberOf? members)

end Document

namespace Json

mutual

/-- The value without the shadowed members of its objects. -/
def unshadowed : Json → Json
  | .array items => .array (unshadowedItems items)
  | .object members => .object (Document.unshadow (unshadowedMembers members))
  | value => value

/-- The items of an array. -/
def unshadowedItems : List Json → List Json
  | [] => []
  | item :: rest => unshadowed item :: unshadowedItems rest

/-- The members of an object, all of which are kept. -/
def unshadowedMembers : List (String × Json) → List (String × Json)
  | [] => []
  | (name, value) :: rest => (name, unshadowed value) :: unshadowedMembers rest

end

theorem unshadowedItems_eq_map (items : List Json) :
    unshadowedItems items = items.map unshadowed := by
  induction items with
  | nil => rfl
  | cons item rest ih => rw [unshadowedItems, ih, List.map_cons]

theorem unshadowedMembers_eq_map (members : List (String × Json)) :
    unshadowedMembers members = members.map (Prod.map id unshadowed) := by
  induction members with
  | nil => rfl
  | cons member rest ih => rw [unshadowedMembers, ih, List.map_cons, Prod.map, id]

end Json

namespace Document

/-- The members of an object that are not shadowed, each with a value without shadowed
members. -/
def cleared (members : Members) : Members :=
  unshadow (members.map (Prod.map id Json.unshadowed))

@[simp] theorem unshadowed_object (members : Members) :
    (Json.object members).unshadowed = .object (cleared members) := by
  rw [Json.unshadowed, Json.unshadowedMembers_eq_map, cleared]

@[simp] theorem unshadowed_array (items : List Json) :
    (Json.array items).unshadowed = .array (items.map Json.unshadowed) := by
  rw [Json.unshadowed, Json.unshadowedItems_eq_map]

@[simp] theorem unshadowed_text (text : String) : (Json.text text).unshadowed = .text text := rfl

theorem unshadowed_eq_null_iff {value : Json} : value.unshadowed = .null ↔ value = .null := by
  cases value <;> simp [Json.unshadowed]

/-! ## The member that is read -/

variable {members : Members} {member : String × Json} {name : String} {value : Json}

theorem lookup_eq_map_find? (members : Members) (name : String) :
    members.lookup name = (members.find? (·.1 == name)).map Prod.snd := by
  induction members with
  | nil => rfl
  | cons member rest ih =>
      rcases member with ⟨other, value⟩
      rw [List.lookup_cons, List.find?_cons, BEq.comm, ih]
      cases other == name <;> rfl

theorem readFrom_iff_memberOf? :
    ReadFrom members name value ↔ ∃ written, memberOf? members name = some (written, value) := by
  have isValue : ∀ found : Option (String × Json),
      found.map Prod.snd = some value ↔ ∃ written, found = some (written, value) := by
    intro found
    rw [Option.map_eq_some_iff]
    exact ⟨fun ⟨member, same, isValue⟩ => ⟨member.1, by rw [same, ← isValue]⟩,
      fun ⟨written, same⟩ => ⟨_, same, rfl⟩⟩
  rw [readFrom_iff, lookup_eq_map_find?, ← isValue, memberOf?]
  cases members.find? (·.1 == name) <;> rfl

theorem mem_of_memberOf? (read : memberOf? members name = some member) : member ∈ members := by
  rw [memberOf?, Option.orElse_eq_some] at read
  rcases read with exact | ⟨-, padded⟩
  · exact List.mem_of_find?_eq_some exact
  · exact List.mem_of_find?_eq_some padded

theorem trim_of_memberOf? (plain : Text.trim name = name)
    (read : memberOf? members name = some member) : Text.trim member.1 = name := by
  rw [memberOf?, Option.orElse_eq_some] at read
  rcases read with exact | ⟨-, padded⟩
  · have same := List.find?_some exact
    rw [beq_iff_eq] at same
    rw [same, plain]
  · have same := List.find?_some padded
    rwa [beq_iff_eq] at same

theorem exists_memberOf? (among : member ∈ members) :
    ∃ read, memberOf? members (Text.trim member.1) = some read := by
  rcases Has.exists_readFrom ⟨member.1, among, rfl⟩ with ⟨value, read⟩
  rcases readFrom_iff_memberOf?.1 read with ⟨written, isRead⟩
  exact ⟨_, isRead⟩

/-- Members that are not shadowed by each other. -/
def Unshadowed (members : Members) : Prop :=
  (members.map fun member => Text.trim member.1).Nodup

/-- Among members that are not shadowed, each is the one that its property is read from. -/
theorem Unshadowed.memberOf? (unshadowed : Unshadowed members) (among : member ∈ members) :
    memberOf? members (Text.trim member.1) = some member := by
  rcases exists_memberOf? among with ⟨read, isRead⟩
  have sameName := trim_of_memberOf? (Text.trim_trim _) isRead
  have same : read = member :=
    List.inj_on_of_nodup_map unshadowed (mem_of_memberOf? isRead) among sameName
  rw [isRead, same]

theorem Unshadowed.readFrom (unshadowed : Unshadowed members) (among : member ∈ members) :
    ReadFrom members (Text.trim member.1) member.2 :=
  readFrom_iff_memberOf?.2 ⟨member.1, unshadowed.memberOf? among⟩

theorem mem_unshadow_iff :
    member ∈ unshadow members ↔ memberOf? members (Text.trim member.1) = some member := by
  simp only [unshadow, List.mem_filterMap, List.mem_dedup, List.mem_map]
  constructor
  · intro holds
    rcases holds with ⟨_, ⟨other, -, rfl⟩, read⟩
    rwa [trim_of_memberOf? (Text.trim_trim _) read]
  · intro read
    exact ⟨_, ⟨member, mem_of_memberOf? read, rfl⟩, read⟩

theorem unshadowed_unshadow (members : Members) : Unshadowed (unshadow members) := by
  have trimmed : ∀ name ∈ (members.map fun member => Text.trim member.1).dedup,
      Text.trim name = name := by
    intro name among
    rcases List.mem_map.1 (List.mem_dedup.1 among) with ⟨member, -, rfl⟩
    exact Text.trim_trim _
  rw [Unshadowed, unshadow, List.Nodup, List.pairwise_map, List.pairwise_filterMap]
  refine (List.nodup_dedup _).imp_of_mem ?_
  intro left right leftAmong rightAmong differ first firstRead second secondRead same
  rw [trim_of_memberOf? (trimmed _ leftAmong) firstRead,
    trim_of_memberOf? (trimmed _ rightAmong) secondRead] at same
  exact differ same

/-- A property is read from the same member when the shadowed ones are left out. -/
theorem memberOf?_unshadow (plain : Text.trim name = name) :
    memberOf? (unshadow members) name = memberOf? members name := by
  cases read : memberOf? members name with
  | some member =>
      have sameName := trim_of_memberOf? plain read
      subst sameName
      exact (unshadowed_unshadow members).memberOf? (mem_unshadow_iff.2 read)
  | none =>
      rw [Option.eq_none_iff_forall_ne_some]
      intro member isRead
      have sameName := trim_of_memberOf? plain isRead
      have kept := mem_unshadow_iff.1 (mem_of_memberOf? isRead)
      rw [sameName, read] at kept
      cases kept

/-- Members that are not shadowed are all kept. -/
theorem Unshadowed.mem_unshadow_iff (unshadowed : Unshadowed members) :
    member ∈ unshadow members ↔ member ∈ members := by
  rw [Document.mem_unshadow_iff]
  exact ⟨mem_of_memberOf?, unshadowed.memberOf?⟩

theorem Unshadowed.mem_cleared_iff (unshadowed : Unshadowed members) :
    member ∈ cleared members ↔
      ∃ original ∈ members, Prod.map id Json.unshadowed original = member := by
  have differ : Unshadowed (members.map (Prod.map id Json.unshadowed)) := by
    rw [Unshadowed, List.map_map]
    exact unshadowed
  exact differ.mem_unshadow_iff.trans List.mem_map

/-! ## Properties of objects without shadowed members -/

theorem memberOf?_map (change : Json → Json) :
    memberOf? (members.map (Prod.map id change)) name =
      (memberOf? members name).map (Prod.map id change) := by
  simp only [memberOf?, List.find?_map, Function.comp_def, Prod.map_fst, id]
  cases members.find? (·.1 == name) <;> rfl

theorem readFrom_cleared_iff (plain : Text.trim name = name) :
    ReadFrom (cleared members) name value ↔
      ∃ original, ReadFrom members name original ∧ original.unshadowed = value := by
  simp only [readFrom_iff_memberOf?, cleared, memberOf?_unshadow plain, memberOf?_map]
  constructor
  · intro holds
    rcases holds with ⟨written, read⟩
    rcases Option.map_eq_some_iff.1 read with ⟨⟨_, original⟩, isRead, same⟩
    cases same
    exact ⟨original, ⟨_, isRead⟩, rfl⟩
  · intro holds
    rcases holds with ⟨original, ⟨written, isRead⟩, rfl⟩
    exact ⟨written, by rw [isRead]; rfl⟩

theorem gives_cleared_iff (plain : Text.trim name = name) :
    Gives (cleared members) name value ↔
      ∃ original, Gives members name original ∧ original.unshadowed = value := by
  rw [Gives, readFrom_cleared_iff plain]
  constructor
  · intro holds
    rcases holds with ⟨⟨original, read, rfl⟩, present⟩
    exact ⟨original, ⟨read, mt unshadowed_eq_null_iff.2 present⟩, rfl⟩
  · intro holds
    rcases holds with ⟨original, ⟨read, present⟩, rfl⟩
    exact ⟨⟨original, read, rfl⟩, mt unshadowed_eq_null_iff.1 present⟩

theorem Lacks.cleared (plain : Text.trim name = name) (lacks : Lacks members name) :
    Lacks (cleared members) name := by
  intro value gives
  rcases (gives_cleared_iff plain).1 gives with ⟨original, givesOriginal, -⟩
  exact lacks original givesOriginal

theorem exists_of_mem_cleared (among : (name, value) ∈ cleared members) :
    ∃ original, (name, original) ∈ members ∧ value = original.unshadowed := by
  rcases List.mem_map.1 (mem_of_memberOf? (mem_unshadow_iff.1 among)) with
    ⟨⟨_, original⟩, member, same⟩
  cases same
  exact ⟨original, member, rfl⟩

/-! ## What is described -/

/-- The properties of an object are given without shadowed members as well.  Where the names
of entries have to differ anyway, none is left out. -/
theorem membersAlike_cleared (members : Members) :
    MembersAlike (fun value other => other = value.unshadowed) members (cleared members) where
  gives plain gives := ⟨_, (gives_cleared_iff plain).2 ⟨_, gives, rfl⟩, rfl⟩
  lacks := Lacks.cleared
  names := by
    rintro ⟨name, value⟩ among
    rcases exists_of_mem_cleared among with ⟨original, member, -⟩
    exact ⟨_, member, rfl⟩
  entries := by
    intro defines
    have differ : Unshadowed members := by
      have distinct := defines.distinct
      rwa [List.map_map] at distinct
    refine ⟨⟨?_, ?_⟩, ?_, ?_⟩
    · rintro ⟨name, value⟩ among
      rcases exists_of_mem_cleared among with ⟨original, member, -⟩
      exact defines.named (name, original) member
    · rw [List.map_map]
      exact unshadowed_unshadow _
    · rintro ⟨name, value⟩ among
      rcases exists_of_mem_cleared among with ⟨original, member, rfl⟩
      exact ⟨_, member, rfl, rfl⟩
    · intro original member
      exact ⟨_, differ.mem_cleared_iff.2 ⟨original, member, rfl⟩, rfl⟩

theorem readsAlike_unshadowed : ReadsAlike fun value other => other = value.unshadowed where
  text := by
    rintro written _ rfl
    exact ⟨written, unshadowed_text written, rfl⟩
  number := by
    rintro number _ rfl
    rfl
  array := by
    rintro items _ rfl
    have each : List.Forall₂ (fun item other => other = item.unshadowed) items
        (items.map Json.unshadowed) :=
      List.forall₂_map_right_iff.2 (List.forall₂_same.2 fun _ _ => rfl)
    exact ⟨_, unshadowed_array items, each⟩
  object := by
    rintro members _ rfl
    exact ⟨_, unshadowed_object members, membersAlike_cleared members⟩

theorem IsObject.unshadowed {shape : Members → Prop} (isObject : IsObject shape value)
    (keeps : ∀ members, shape members → shape (cleared members)) :
    IsObject shape value.unshadowed := by
  rcases isObject with ⟨members, rfl, shaped⟩
  exact ⟨_, unshadowed_object members, keeps members shaped⟩

theorem DescribesConfig.cleared {config : Config} (describes : DescribesConfig config members) :
    DescribesConfig config (cleared members) :=
  (membersAlike_cleared members).describesConfig readsAlike_unshadowed describes

/-! ## Objects without shadowed members -/

/-- The object without shadowed members. -/
def Object.cleared (object : Object) : Object :=
  ⟨object.role, Document.cleared object.members⟩

theorem NeedsStep.cleared (needs : NeedsStep members name) :
    NeedsStep (cleared members) name := by
  have kept : ∀ {text}, Requires members "SCROLL_ACTION" (Spells text) →
      Requires (Document.cleared members) "SCROLL_ACTION" (Spells text) := fun action =>
    (membersAlike_cleared members).requires action (by decide) readsAlike_unshadowed.spells
  cases needs with
  | forward action => exact .forward (kept action)
  | backward action => exact .backward (kept action)
  | element action => exact .element (kept action)

theorem Reads.cleared {inner : Members} (plain : Text.trim name = name)
    (reads : Reads members name (.object inner)) :
    Reads (cleared members) name (.object (cleared inner)) :=
  ⟨(gives_cleared_iff plain).2 ⟨_, reads.1, unshadowed_object inner⟩,
    fun isStep => (reads.2 isStep).cleared⟩

/-- What is read inside an object is still read once the shadowed members are left out. -/
theorem Inside.cleared {outer inner : Object} (wellFormed : outer.WellFormed)
    (reads : Inside Reads outer inner) : Inside Reads outer.cleared inner.cleared := by
  cases reads with
  | namedElement seen entry =>
      have elements := (IsConfig.elements wellFormed).formed seen.1
      have differ : Unshadowed _ := elements.shaped.distinct
      exact .namedElement (seen.cleared (by decide))
        (differ.mem_cleared_iff.2 ⟨_, entry, congrArg (Prod.mk _) (unshadowed_object _)⟩)
  | task seen entry item =>
      have workflows := (IsConfig.workflows wellFormed).formed seen.1
      have differ : Unshadowed _ := workflows.shaped.distinct
      exact .task (seen.cleared (by decide))
        (differ.mem_cleared_iff.2 ⟨_, entry, congrArg (Prod.mk _) (unshadowed_array _)⟩)
        (List.mem_map.2 ⟨_, item, unshadowed_object _⟩)
  | payload seen => exact .payload (seen.cleared (by decide))
  | scroll seen => exact .scroll (seen.cleared (by decide))
  | target seen => exact .target (seen.cleared (by decide))
  | stepElement named seen =>
      exact .stepElement named (seen.cleared (trim_of_mem_stepNames _ named))

theorem Object.IsReadIn.cleared {document : Json} {object : Object}
    (isRead : object.IsReadIn document) (accepted : ∃ config, Config.ofJson document = .ok config) :
    object.cleared.IsReadIn document.unshadowed := by
  rcases isRead with ⟨members, rfl, path⟩
  refine ⟨_, unshadowed_object members, ?_⟩
  induction path with
  | refl => exact .refl
  | tail path reads ih =>
      have outerRead : Object.IsReadIn (.object members) _ := ⟨members, rfl, path⟩
      exact ih.tail (reads.cleared (outerRead.wellFormed accepted))

/-- Some members are what remains of others once the shadowed ones are left out. -/
def IsCleared (members : Members) : Prop :=
  ∃ originals, members = cleared originals

theorem isCleared_of_object (isObject : Json.object members = value.unshadowed) :
    IsCleared members := by
  cases value with
  | object originals =>
      rw [unshadowed_object, Json.object.injEq] at isObject
      exact ⟨originals, isObject⟩
  | _ => cases isObject

theorem IsCleared.has {inner : Members} (isCleared : IsCleared members)
    (has : Has members name (.object inner)) : IsCleared inner := by
  rcases isCleared with ⟨_, rfl⟩
  rcases has with ⟨written, among, -⟩
  rcases exists_of_mem_cleared among with ⟨original, -, isObject⟩
  exact isCleared_of_object isObject

theorem IsCleared.inside {outer inner : Object} (isCleared : IsCleared outer.members)
    (inside : Inside Has outer inner) : IsCleared inner.members := by
  cases inside with
  | namedElement has entry =>
      rcases isCleared.has has with ⟨_, rfl⟩
      rcases exists_of_mem_cleared entry with ⟨original, -, isElement⟩
      exact isCleared_of_object isElement
  | task has entry item =>
      rcases isCleared.has has with ⟨_, rfl⟩
      rcases exists_of_mem_cleared entry with ⟨original, -, isArray⟩
      cases original with
      | array items =>
          rw [unshadowed_array, Json.array.injEq] at isArray
          rw [isArray] at item
          rcases List.mem_map.1 item with ⟨original, -, isTask⟩
          exact isCleared_of_object isTask.symm
      | _ => cases isArray
  | payload has | scroll has | target has | stepElement _ has => exact isCleared.has has

theorem IsCleared.unshadowed (isCleared : IsCleared members) : Unshadowed members := by
  rcases isCleared with ⟨_, rfl⟩
  exact unshadowed_unshadow _

/-- No object that stands in a document has shadowed members when they have been left
out. -/
theorem Object.StandsIn.unshadowed {document : Json} {object : Object}
    (stands : object.StandsIn Has document.unshadowed) : Unshadowed object.members := by
  rcases stands with ⟨members, isObject, path⟩
  apply IsCleared.unshadowed
  induction path with
  | refl => exact isCleared_of_object isObject.symm
  | tail _ inside ih => exact ih.inside inside

end Document

open Document

/-- An accepted document is read as the same configuration without its shadowed members.
Every object that was read is still read then, and every member of an object is the one
that its property is read from. -/
theorem Config.ofJson_unshadowed {document : Json} {config : Config}
    (accepted : ofJson document = .ok config) :
    ofJson document.unshadowed = .ok config ∧
      (∀ object : Object, object.IsReadIn document →
        object.cleared.IsReadIn document.unshadowed) ∧
      ∀ object : Object, object.IsReadIn document.unshadowed →
        Unshadowed object.members ∧
          ∀ member ∈ object.members,
            ReadFrom object.members (Text.trim member.1) member.2 := by
  refine ⟨?_, fun object isRead => isRead.cleared ⟨config, accepted⟩, ?_⟩
  · rw [ofJson_eq_ok_iff] at accepted ⊢
    exact accepted.unshadowed fun _ => DescribesConfig.cleared
  · intro object isRead
    have unshadowed := isRead.standsIn.unshadowed
    exact ⟨unshadowed, fun member => unshadowed.readFrom⟩

/-- A document with two sections of commands, one of which has a padded name. -/
def twoCommandSections : Json :=
  .object
    [(" COMMANDS", .object [("BACK", .text "leave")]),
      ("COMMANDS", .object [("HOME", .text "go home")])]

theorem Config.ofJson_unshadowed_twoCommandSections :
    ∃ config, ofJson twoCommandSections = .ok config ∧
      twoCommandSections.unshadowed =
        .object [("COMMANDS", .object [("HOME", .text "go home")])] ∧
      ofJson twoCommandSections.unshadowed = .ok config :=
  ⟨_, rfl, rfl, (ofJson_unshadowed rfl).1⟩

/-- A section is discarded together with its definitions when it is shadowed, although
the document is accepted. -/
theorem Config.ofJson_discards_shadowed_section :
    ∃ members config, Object.IsReadIn twoCommandSections ⟨.document, members⟩ ∧
      ¬ Unshadowed members ∧ ofJson twoCommandSections = .ok config ∧
      config.store.command "BACK" = .error (.missingKey .commands "BACK") :=
  ⟨_, _, ⟨_, rfl, .refl⟩, by rw [Unshadowed]; decide, rfl, rfl⟩

end Screenplay
