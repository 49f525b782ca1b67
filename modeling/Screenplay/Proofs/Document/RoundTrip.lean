import Screenplay.Config.Writer
import Screenplay.Proofs.Document.Rearranged
import Screenplay.Proofs.Document.Sound

/-!
# Reading what was written

A sound configuration that is written as a document describes itself there, and still
does when the members of the document's objects are put in a different order.  Since
documents are read as what they describe, a configuration that was made of documents
by layers can be written and read again.

Each writer gets one lemma, about the relation that characterises its reader.
-/

namespace Screenplay

theorem SelectorKind.trim_name (kind : SelectorKind) : Text.trim kind.name = kind.name := by
  cases kind <;> decide

theorem TaskKind.trim_name (kind : TaskKind) : Text.trim kind.name = kind.name := by
  cases kind <;> decide

theorem Axis.trim_name (axis : Axis) : Text.trim axis.name = axis.name := by
  cases axis <;> decide

namespace Document

open Json (Rearranged)

/-! ## Values -/

theorem spells_of_rearranged {text : String} (trimmed : Text.trim text = text) {value : Json}
    (rearranged : Rearranged (.text text) value) : Spells text value :=
  ⟨text, eq_of_rearranged_text rearranged, trimmed⟩

theorem standsFor_of_rearranged_text {number : Nat} {value : Json}
    (rearranged : Rearranged (.text (toString number)) value) : StandsFor value number := by
  rw [eq_of_rearranged_text rearranged]
  refine .text ?_
  rw [Text.trim_toString]
  exact Text.denotes_toString number

theorem standsFor_of_rearranged_number {count : UInt32} {value : Json}
    (rearranged : Rearranged (Json.ofNat count.toNat) value) : StandsFor value count.toNat := by
  have kept : (UInt64.ofNat count.toNat).toNat = count.toNat :=
    UInt64.toNat_ofNat_of_lt' (Nat.lt_trans count.toNat_lt_size (by decide))
  have stands := StandsFor.number (UInt64.ofNat count.toNat)
  rw [kept] at stands
  rw [eq_of_rearranged_number rearranged]
  exact stands

/-- The members of an object that was written with names of a format. -/
theorem exists_of_rearranged_written (names : List String) (distinct : names.Nodup)
    (unpadded : ∀ name ∈ names, Text.trim name = name) {members : Members}
    (some : (members.map Prod.fst).Sublist names) {value : Json}
    (rearranged : Rearranged (.object members) value) :
    ∃ others, value = .object others ∧ Tidy members ∧ Reorders members others ∧
      NamedAmong names others := by
  have tidy := Tidy.of_sublist some distinct unpadded
  rcases exists_of_rearranged_object tidy.distinct rearranged with ⟨others, isObject, reorders⟩
  exact ⟨others, isObject, tidy, reorders,
    reorders.namedAmong tidy fun name member => some.subset member⟩

/-! ## Elements and ways to scroll -/

theorem describesElement_toJson {descriptor : Descriptor} {value : Json}
    (rearranged : Rearranged descriptor.toJson value) :
    IsObject (DescribesElement descriptor) value := by
  obtain ⟨others, isObject, tidy, reorders, names⟩ :=
    exists_of_rearranged_written descriptorNames (by decide) (by decide)
      (by cases descriptor.package <;> simp [Element.optionalMember, descriptorNames]) rearranged
  refine ⟨others, isObject, names, ?_, ?_, descriptor.package, ?_,
    descriptor.package_trimmed.symm⟩
  · exact reorders.requires tidy (by simp) (by simp) fun _ =>
      spells_of_rearranged descriptor.kind.trim_name
  · exact reorders.requires tidy (by simp) (by simp) fun _ =>
      spells_of_rearranged descriptor.value_trimmed
  · exact reorders.holds tidy (fun package given => by simp [given, Element.optionalMember])
      (fun absent => by simp [absent, Element.optionalMember]) (by simp)
      (fun _ _ _ => eq_of_rearranged_text)

theorem describesAction_toMembers {action : ScrollAction} {rest others : Members}
    (tidy : Tidy (action.toMembers ++ rest))
    (reorders : Reorders (action.toMembers ++ rest) others) : DescribesAction others action := by
  cases action with
  | buttons forward backward =>
      refine ⟨?_, ?_, ?_⟩
      · exact reorders.requires tidy (by simp [ScrollAction.toMembers]) (by simp) fun _ =>
          spells_of_rearranged (by decide)
      · exact reorders.requires tidy (by simp [ScrollAction.toMembers])
          (by simp [Descriptor.toJson]) fun _ => describesElement_toJson
      · exact reorders.requires tidy (by simp [ScrollAction.toMembers])
          (by simp [Descriptor.toJson]) fun _ => describesElement_toJson
  | gesture axis container =>
      refine ⟨?_, ?_, ?_⟩
      · exact reorders.requires tidy (by simp [ScrollAction.toMembers]) (by simp) fun _ =>
          spells_of_rearranged (by decide)
      · exact reorders.requires tidy (by simp [ScrollAction.toMembers]) (by simp) fun _ =>
          spells_of_rearranged axis.trim_name
      · exact reorders.requires tidy (by simp [ScrollAction.toMembers])
          (by simp [Descriptor.toJson]) fun _ => describesElement_toJson

theorem describesScroll_toJson {scroll : Scroll} {value : Json}
    (rearranged : Rearranged scroll.toJson value) :
    IsObject (DescribesScroll scroll) value := by
  obtain ⟨others, isObject, tidy, reorders, names⟩ :=
    exists_of_rearranged_written scrollNames (by decide) (by decide)
      (by cases scroll.action <;> simp [ScrollAction.toMembers, scrollNames]) rearranged
  refine ⟨others, isObject, names, describesAction_toMembers tidy reorders, ⟨some _, ?_, rfl⟩,
    ⟨some _, ?_, rfl⟩⟩
  · exact reorders.requires tidy (by simp) (by simp) fun _ => standsFor_of_rearranged_text
  · exact reorders.requires tidy (by simp) (by simp) fun _ => standsFor_of_rearranged_text

/-! ## Tasks -/

theorem describesPayload_payloadJson {action : Action}
    (plain : ∀ words ∈ action.text?, IsPlain words) {value : Json}
    (rearranged : Rearranged (Task.payloadJson action) value) :
    IsObject (DescribesPayload action) value := by
  obtain ⟨others, isObject, tidy, reorders, names⟩ :=
    exists_of_rearranged_written payloadNames (by decide) (by decide)
      (by cases action <;>
        simp [Element.optionalMember, Action.text?, Action.element?, payloadNames]) rearranged
  refine ⟨others, isObject, names, ?_, ?_⟩
  · exact reorders.holds tidy (fun text given => by simp [given, Element.optionalMember])
      (fun absent => by simp [absent, Element.optionalMember]) (by simp)
      (fun text given _ rearranged =>
        ⟨spells_of_rearranged (plain text given).1 rearranged, (plain text given).2⟩)
  · exact reorders.holds tidy (fun element given => by simp [given])
      (fun absent => by simp [absent, Element.optionalMember]) (by simp [Descriptor.toJson])
      (fun _ _ _ => describesElement_toJson)

theorem describesTask_toJson {task : Task} (sound : task.Sound) {value : Json}
    (rearranged : Rearranged task.toJson value) : IsObject (DescribesTask task) value := by
  obtain ⟨others, isObject, tidy, reorders, names⟩ :=
    exists_of_rearranged_written taskNames (by decide) (by decide)
      (by cases task.action.scroll? <;> simp [taskNames]) rearranged
  refine ⟨others, isObject, names, ?_, sound.name.2, ?_, ?_, ?_, ⟨some _, ?_, rfl⟩⟩
  · exact reorders.requires tidy (by simp) (by simp) fun _ =>
      spells_of_rearranged sound.name.1
  · exact reorders.requires tidy (by simp) (by simp) fun _ =>
      spells_of_rearranged task.action.kind.trim_name
  · exact reorders.requires tidy (by simp) (by simp [Task.payloadJson]) fun _ =>
      describesPayload_payloadJson sound.text
  · exact reorders.holds tidy (fun scroll given => by simp [given])
      (fun absent => by simp [absent]) (by simp [Scroll.toJson])
      (fun _ _ _ => describesScroll_toJson)
  · exact reorders.requires tidy (by simp) (by simp [Json.ofNat]) fun _ =>
      standsFor_of_rearranged_number

theorem describesWorkflow_tasksJson {name : String} {workflow : Workflow}
    (sound : workflow.Sound name) {value : Json}
    (rearranged : Rearranged workflow.tasksJson value) : DescribesWorkflow name workflow value := by
  rcases exists_of_rearranged_array rearranged with ⟨items, isArray, each⟩
  rw [List.forall₂_map_left_iff] at each
  have soundEach := (List.forall₂_and_left _ _).2 ⟨sound.tasks, each⟩
  refine ⟨sound.name, items, isArray, soundEach.flip.imp ?_⟩
  intro item task soundTask
  rcases soundTask with ⟨taskSound, rearranged⟩
  exact describesTask_toJson taskSound rearranged

/-! ## Sections -/

theorem mem_toMembers_iff {α : Type} {map : NameMap α} {write : α → Json} {name : String}
    {json : Json} :
    (name, json) ∈ map.toMembers write ↔
      ∃ value, map.get? name = some value ∧ write value = json := by
  simp [NameMap.toMembers, NameMap.get?_eq_some_iff]

theorem describesEntries_toMembers {α : Type} {map : NameMap α} {write : α → Json}
    {form : String → α → Json → Prop} (plain : map.Each fun name _ => IsPlain name)
    (describes : map.Each fun name value =>
      ∀ other, Rearranged (write value) other → form name value other)
    {value : Json} (rearranged : Rearranged (.object (map.toMembers write)) value) :
    IsObject (DescribesEntries form map) value := by
  have sameNames : (map.toMembers write).map Prod.fst = map.entries.map Prod.fst := by
    simp [NameMap.toMembers]
  have isPlain : ∀ name ∈ (map.toMembers write).map Prod.fst, IsPlain name := by
    intro name member
    rcases List.mem_map.1 member with ⟨⟨_, json⟩, among, rfl⟩
    rcases mem_toMembers_iff.1 among with ⟨value, found, -⟩
    exact plain _ value found
  have tidy : Tidy (map.toMembers write) :=
    ⟨sameNames ▸ map.increasing.nodup, fun name member => (isPlain name member).1⟩
  rcases exists_of_rearranged_object tidy.distinct rearranged with ⟨others, isObject, reorders⟩
  have otherTidy := reorders.tidy tidy
  have named : ∀ entry ∈ others, entry.1 ∈ (map.toMembers write).map Prod.fst :=
    fun entry member => reorders.names.mem_iff.1 (List.mem_map_of_mem member)
  have trimmed : ∀ entry ∈ others, Text.trim entry.1 = entry.1 :=
    fun entry member => (isPlain _ (named entry member)).1
  refine ⟨others, isObject, ⟨?_, ?_⟩, ?_, ?_⟩
  · intro entry member
    rw [trimmed entry member]
    exact (isPlain _ (named entry member)).2
  · have same : (others.map unpadded).map Prod.fst = others.map Prod.fst := by
      rw [List.map_map]
      exact List.map_congr_left trimmed
    rw [same]
    exact otherTidy.distinct
  · intro entry member
    rcases entry with ⟨name, json⟩
    rcases List.mem_map.1 (named _ member) with ⟨⟨_, written⟩, among, rfl⟩
    rcases mem_toMembers_iff.1 among with ⟨value, found, rfl⟩
    rw [trimmed _ member]
    exact ⟨value, found, describes _ value found _ (reorders.values _ _ _ among member)⟩
  · intro name value found
    have among : (name, write value) ∈ map.toMembers write :=
      mem_toMembers_iff.2 ⟨value, found, rfl⟩
    rcases List.mem_map.1 (reorders.names.mem_iff.2 (List.mem_map_of_mem among)) with
      ⟨entry, member, rfl⟩
    exact ⟨entry, member, trimmed entry member⟩

/-! ## Configurations -/

theorem describesText_text {map : NameMap String}
    (plain : map.Each fun name text => IsPlain name ∧ IsPlain text) {value : Json}
    (rearranged : Rearranged (.object (map.toMembers .text)) value) :
    IsObject (DescribesEntries DescribesText map) value := by
  refine describesEntries_toMembers (fun name text found => (plain name text found).1) ?_ rearranged
  intro name text found other rearranged
  rcases plain name text found with ⟨-, trimmed, nonblank⟩
  exact ⟨spells_of_rearranged trimmed rearranged, nonblank⟩

theorem describesConfig_toJson {config : Config} (sound : config.Sound) {value : Json}
    (rearranged : Rearranged config.toJson value) : IsObject (DescribesConfig config) value := by
  obtain ⟨others, isObject, tidy, reorders, names⟩ :=
    exists_of_rearranged_written (Section.all.map Section.name) (by decide) (by decide)
      (by simp [Store.toMembers, Section.all, Section.name]) rearranged
  refine ⟨others, isObject, names, .inr ?_, .inr ?_, .inr ?_, .inr ?_, .inr ?_⟩
  · exact reorders.requires tidy (by simp [Store.toMembers, Section.name]) (by simp)
      fun _ => describesText_text sound.commands
  · exact reorders.requires tidy (by simp [Store.toMembers, Section.name]) (by simp)
      fun _ => describesText_text sound.packages
  · exact reorders.requires tidy (by simp [Store.toMembers, Section.name]) (by simp)
      fun _ => describesText_text sound.actions
  · exact reorders.requires tidy (by simp [Store.toMembers, Section.name]) (by simp)
      fun _ => describesEntries_toMembers sound.elements
        fun _ _ _ _ => describesElement_toJson
  · exact reorders.requires tidy (by simp [Store.toMembers, Section.name]) (by simp)
      fun _ => describesEntries_toMembers
        (fun name workflow found => (sound.workflows name workflow found).1)
        fun name workflow found _ =>
          describesWorkflow_tasksJson (sound.workflows name workflow found).2

end Document

/-- A configuration that was made of documents by layers is read back from the document
that it is written as, whatever the order of the members. -/
theorem Config.Layered.ofJson_toJson {config : Config} (layered : Layered config) :
    ofJson config.toJson = .ok config ∧
      ∀ document, config.toJson.Rearranged document → ofJson document = .ok config := by
  have readsBack : ∀ document, config.toJson.Rearranged document →
      ofJson document = .ok config := fun document rearranged =>
    Document.ofJson_eq_ok_iff.2 (Document.describesConfig_toJson layered.sound rearranged)
  exact ⟨readsBack _ (.same _), readsBack⟩

/-- A document with padding in its names and texts. -/
def paddedDocument : Json :=
  .object
    [(" COMMANDS", .object [("HOME ", .text " go home")]),
      ("WORKFLOWS", .object
        [(" find", .array
          [.object
            [("NAME", .text "row "), ("TYPE ", .text "SCROLL_TO_FIND_AND_CLICK"),
              ("CONFIG", .object [("UI_ELEMENT", .object
                [("TYPE", .text "TEXT_CONTAINS"), ("VALUE", .text " Row 7 ")])]),
              ("SCROLL_CONFIG", .object
                [("SCROLL_ACTION", .text "USE_GESTURE"),
                  ("SCROLL_DIRECTION", .text "VERTICAL"),
                  ("SCROLL_ELEMENT", .object
                    [("TYPE", .text "CLASS"), ("VALUE", .text "ListView")]),
                  ("SCROLL_MARGIN", .number (.natural 20))])]])])]

/-- A document with a new text for a command. -/
def commandDocument : Json :=
  .object [("COMMANDS", .object [("HOME", .text "leave")])]

theorem Config.Layered.ofJson_toJson_afterOverride :
    ∃ config layer, ofJson paddedDocument = .ok config ∧ ofJson commandDocument = .ok layer ∧
      (config.afterOverride layer).store.command "HOME" = .ok "leave" ∧
      ofJson (config.afterOverride layer).toJson = .ok (config.afterOverride layer) := by
  refine ⟨_, _, rfl, rfl, rfl, ?_⟩
  have first := @Layered.read paddedDocument _ rfl
  have later := @Layered.read commandDocument _ rfl
  exact (Config.Layered.ofJson_toJson (first.override later)).1

end Screenplay
