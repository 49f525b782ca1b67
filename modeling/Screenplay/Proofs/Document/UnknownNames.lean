import Screenplay.Proofs.Document.Objects
import Screenplay.Proofs.Text.Bytes

/-!
# Unknown names are reported first

The names of an object are checked before any of its values is looked at.  An object that
has names which it may not have is therefore refused with all of these names, whatever else
is wrong with it.  The payload of a task is read after the name and the type of the task,
and is refused likewise once these are fine.
-/

namespace Screenplay.Document

variable {allowed : List String} {members : NameMap Json} {names : List String}

/-- The names that an object may not have, without their padding: one for each member that
has such a name, in the order of the bytes of the names as they are written. -/
def ListsUnknown (allowed : List String) (members : NameMap Json) (names : List String) : Prop :=
  ∃ written : List String, names = written.map Text.trim ∧
    written.Pairwise (fun left right => Text.bytes left < Text.bytes right) ∧
    ∀ name, name ∈ written ↔ name ∈ members.names ∧ Text.trim name ∉ allowed

theorem listsUnknown_filter (allowed : List String) (members : NameMap Json) :
    ListsUnknown allowed members
      ((members.entries.map fun member => Text.trim member.1).filter (!allowed.contains ·)) := by
  refine ⟨members.names.filter fun name => !allowed.contains (Text.trim name), ?_, ?_, ?_⟩
  · rw [NameMap.names, ← Function.comp_def Text.trim Prod.fst, ← List.map_map, List.filter_map]
    rfl
  · have increasing : members.names.Pairwise (· < ·) := List.pairwise_map.2 members.increasing
    exact (increasing.imp Text.lt_iff_bytes_lt.1).filter _
  · simp

/-- Something is refused because of the unknown names of an object, all of which it lists. -/
def RefusedFor {α : Type} (role : Role) (context : String) (members : NameMap Json)
    (result : Except ConfigError α) : Prop :=
  ∃ names, ListsUnknown role.names members names ∧
    result = .error (.unknownProperties context names)

theorem checkNames_refusedFor {role : Role} (unknown : ¬ Object.Known ⟨role, members.entries⟩)
    (context : String) :
    RefusedFor role context members (checkNames role.names context members.entries) := by
  refine ⟨_, listsUnknown_filter _ _, ?_⟩
  rw [checkNames]
  split
  next isNil =>
    have passed : checkNames role.names context members.entries = .ok () := by
      rw [checkNames, isNil]
    exact absurd (checkNames_eq_ok_iff.1 passed) unknown
  next => rfl

/-- What is refused at once is refused, whatever would have come after. -/
theorem RefusedFor.bind {α β : Type} {role : Role} {context : String}
    {first : Except ConfigError α} (refused : RefusedFor role context members first)
    (next : α → Except ConfigError β) : RefusedFor role context members (first >>= next) := by
  obtain ⟨names, lists, rfl⟩ := refused
  exact ⟨names, lists, rfl⟩

/-- The payload of a task whose name and type are fine is refused for its unknown names. -/
theorem readTask_refusedFor_payload {task : Members} {name : String} {kind : TaskKind}
    (known : Object.Known ⟨.task, task⟩) (named : Requires task "NAME" (Spells name))
    (nonblank : name ≠ "") (typed : Requires task "TYPE" (Spells kind.name))
    (given : Gives task "CONFIG" (.object members.entries))
    (unknown : ¬ Object.Known ⟨.payload, members.entries⟩) (place : String) :
    RefusedFor .payload (place ++ " (" ++ name ++ ")" ++ ".CONFIG") members
      (readTask place (.object task)) := by
  have passed : checkNames taskNames place task = .ok () := checkNames_eq_ok_iff.2 known
  have nameRead : textProperty place "NAME" task = .ok name :=
    textProperty_eq_ok_iff.2 ⟨named, nonblank⟩
  have typeRead : textProperty (place ++ " (" ++ name ++ ")") "TYPE" task = .ok kind.name :=
    textProperty_eq_ok_iff.2 ⟨typed, kind.name_ne_empty⟩
  have isKind : TaskKind.ofName kind.name = .ok kind :=
    TaskKind.ofName_eq_ok_iff.2 (trim_eq_of_requires typed)
  have payloadRead : property (place ++ " (" ++ name ++ ")") "CONFIG" task =
      .ok (.object members.entries) :=
    property_eq_ok_iff.2 given
  rw [readTask, bind_eq_of_ok (asObject_eq_ok_iff.2 rfl), bind_eq_of_ok passed,
    bind_eq_of_ok nameRead, bind_eq_of_ok typeRead, bind_eq_of_ok isKind,
    bind_eq_of_ok payloadRead, bind_eq_of_ok (asObject_eq_ok_iff.2 rfl)]
  exact ((checkNames_refusedFor unknown _).bind _).bind _

/-- An object with unknown names is refused with these names, whatever its values are, by
each of the readers. -/
theorem unknown_names_first (members : NameMap Json) (context : String) :
    let object := Json.object members.entries
    (¬ Object.Known ⟨.document, members.entries⟩ →
      RefusedFor .document "config" members (Config.ofJson object)) ∧
    (¬ Object.Known ⟨.element, members.entries⟩ →
      RefusedFor .element context members (readDescriptor context object)) ∧
    (¬ Object.Known ⟨.task, members.entries⟩ →
      RefusedFor .task context members (readTask context object)) ∧
    (¬ Object.Known ⟨.scroll, members.entries⟩ →
      RefusedFor .scroll context members (readScroll context object)) ∧
    ∀ (task : NameMap Json) (name : String) (kind : TaskKind),
      Object.Known ⟨.task, task.entries⟩ →
      Requires task.entries "NAME" (Spells name) → name ≠ "" →
      Requires task.entries "TYPE" (Spells kind.name) →
      Gives task.entries "CONFIG" object →
      ¬ Object.Known ⟨.payload, members.entries⟩ →
        RefusedFor .payload (context ++ " (" ++ name ++ ")" ++ ".CONFIG") members
          (readTask context (.object task.entries)) := by
  refine ⟨fun unknown => ?_, fun unknown => ?_, fun unknown => ?_, fun unknown => ?_,
    fun task name kind known named nonblank typed given unknown => ?_⟩
  · exact (checkNames_refusedFor unknown _).bind _
  · exact (checkNames_refusedFor unknown _).bind _
  · exact (checkNames_refusedFor unknown _).bind _
  · exact (checkNames_refusedFor unknown _).bind _
  · exact readTask_refusedFor_payload known named nonblank typed given unknown context

/-- A section that is no object and two members whose names differ by padding only. -/
def paddedDocument : NameMap Json where
  entries := [(" EXTRA", .bool true), ("COMMANDS", .bool true), ("EXTRA", .null)]
  increasing := by
    unfold Increasing
    decide

/-- A payload with an unknown name. -/
def timedPayload : NameMap Json where
  entries := [("DELAY", .bool true), ("UI_ELEMENT", .bool true)]
  increasing := by
    unfold Increasing
    decide

/-- A task with this payload, whose count is none. -/
def timedTask : NameMap Json where
  entries := [("CONFIG", .object timedPayload.entries), ("NAME", .text " wait "),
    ("REPEAT_COUNT", .bool true), ("TYPE", .text "CLICK")]
  increasing := by
    unfold Increasing
    decide

/-- Both members are reported, and the section is not.  Neither are the element and the count
of the task. -/
theorem unknown_names_first_paddedDocument :
    ¬ Object.Known ⟨.document, paddedDocument.entries⟩ ∧
      RefusedFor .document "config" paddedDocument
        (Config.ofJson (.object paddedDocument.entries)) ∧
      Config.ofJson (.object paddedDocument.entries) =
        .error (.unknownProperties "config" ["EXTRA", "EXTRA"]) ∧
      ¬ Object.Known ⟨.payload, timedPayload.entries⟩ ∧
      RefusedFor .payload ("it" ++ " (" ++ "wait" ++ ")" ++ ".CONFIG") timedPayload
        (readTask "it" (.object timedTask.entries)) ∧
      readTask "it" (.object timedTask.entries) =
        .error (.unknownProperties "it (wait).CONFIG" ["DELAY"]) := by
  have unknown : ¬ Object.Known ⟨.document, paddedDocument.entries⟩ := by
    unfold Object.Known NamedAmong
    decide
  have unknownDelay : ¬ Object.Known ⟨.payload, timedPayload.entries⟩ := by
    unfold Object.Known NamedAmong
    decide
  have known : Object.Known ⟨.task, timedTask.entries⟩ := by
    unfold Object.Known NamedAmong
    decide
  obtain ⟨-, -, -, -, payload⟩ := unknown_names_first timedPayload "it"
  refine ⟨unknown, (unknown_names_first paddedDocument "config").1 unknown, rfl, unknownDelay,
    payload timedTask "wait" .click known ?_ (by decide) ?_ ?_ unknownDelay, rfl⟩
  · exact ⟨_, property?_eq_some_iff.1 rfl, _, rfl, by decide⟩
  · exact ⟨_, property?_eq_some_iff.1 rfl, _, rfl, by decide⟩
  · exact property?_eq_some_iff.1 rfl

end Screenplay.Document
