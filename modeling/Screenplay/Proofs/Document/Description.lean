import Mathlib.Data.List.Forall2
import Screenplay.Proofs.Document.Reading
import Screenplay.Proofs.Task.Count

/-!
# What the members of an object describe

For each thing that a document holds there is a relation between it and the members
of an object that describes it.  The relations say nothing of places and errors.  A
reader accepts a value, with a certain result, exactly when the value describes that
result: `readDescriptor_eq_ok_iff`, `readScroll_eq_ok_iff`, `readTask_eq_ok_iff`.
-/

namespace Screenplay

/-! ## Names of kinds -/

/-- Looking for a name among kinds, each of which is found by its own name. -/
theorem find?_name_eq_some_iff {κ : Type} {kinds : List κ} {nameOf : κ → String} {kind : κ}
    (complete : kinds.find? (nameOf · == nameOf kind) = some kind) {name : String} :
    kinds.find? (nameOf · == name) = some kind ↔ name = nameOf kind := by
  constructor
  · intro isKind
    have named := List.find?_some isKind
    exact (beq_iff_eq.1 named).symm
  · intro same
    subst same
    exact complete

theorem SelectorKind.ofName_eq_ok_iff {name : String} {kind : SelectorKind} :
    SelectorKind.ofName name = .ok kind ↔ Text.trim name = kind.name := by
  rw [← find?_name_eq_some_iff (SelectorKind.ofName?_name kind), ← SelectorKind.ofName?,
    SelectorKind.ofName]
  split <;> simp_all

theorem TaskKind.ofName_eq_ok_iff {name : String} {kind : TaskKind} :
    TaskKind.ofName name = .ok kind ↔ Text.trim name = kind.name := by
  rw [← find?_name_eq_some_iff (TaskKind.ofName?_name kind), ← TaskKind.ofName?,
    TaskKind.ofName]
  split <;> simp_all

theorem Axis.ofName_eq_ok_iff {name : String} {axis : Axis} :
    Axis.ofName name = .ok axis ↔ Text.trim name = axis.name := by
  rw [Axis.ofName]
  split
  next vertical => cases axis <;> simp [vertical, Axis.name]
  next horizontal => cases axis <;> simp [horizontal, Axis.name]
  next => cases axis <;> simp_all [Axis.name]

theorem SelectorKind.name_ne_empty (kind : SelectorKind) : kind.name ≠ "" := by
  cases kind <;> decide

theorem TaskKind.name_ne_empty (kind : TaskKind) : kind.name ≠ "" := by
  cases kind <;> decide

theorem Axis.name_ne_empty (axis : Axis) : axis.name ≠ "" := by
  cases axis <;> decide

namespace Descriptor

/-- The value of a descriptor is not blank. -/
theorem value_ne_empty (descriptor : Descriptor) : descriptor.value ≠ "" := by
  intro blank
  have denotes := descriptor.denotes
  simp [queryOf, blank] at denotes

/-- Parts make up a descriptor exactly when they are its own parts, but for padding. -/
theorem ofParts_eq_ok_iff {kind : SelectorKind} {value : String} {package : Option String}
    {descriptor : Descriptor} :
    ofParts kind value package = .ok descriptor ↔
      descriptor.kind = kind ∧ descriptor.value = Text.trim value ∧
        descriptor.package = trimPackage package := by
  constructor
  · intro made
    rw [ofParts] at made
    split at made
    next => cases made
    next query denotes =>
      cases made
      exact ⟨rfl, rfl, rfl⟩
  · intro holds
    rcases holds with ⟨sameKind, sameValue, samePackage⟩
    have denotes := descriptor.denotes
    rw [sameKind, sameValue, samePackage] at denotes
    rw [ofParts]
    split
    next error refused =>
      rw [refused] at denotes
      cases denotes
    next query other =>
      exact congrArg Except.ok (ext_parts sameKind.symm sameValue.symm samePackage.symm)

end Descriptor

namespace Action

/-- A text without its padding; a blank one counts as none. -/
def trimText (text : Option String) : Option String :=
  (text.map Text.trim).filter (!·.isEmpty)

/-- A text without padding that is not blank is kept as it is. -/
theorem trimText_eq_self {text : Option String}
    (plain : ∀ words ∈ text, Text.trim words = words ∧ words ≠ "") : trimText text = text := by
  cases text with
  | none => rfl
  | some words =>
      rcases plain words rfl with ⟨trimmed, nonblank⟩
      simp [trimText, Option.filter, trimmed, nonblank]

theorem require_eq_ok_iff {α : Type} {kind : TaskKind} {payload : Payload} {part : Option α}
    {result : α} : require kind payload part = .ok result ↔ part = some result := by
  cases part <;> simp [require]

/-- A payload makes up an action exactly when it is the payload of that action, and the
kind is its kind. -/
theorem ofPayload_eq_ok_iff {kind : TaskKind} {text : Option String}
    {element : Option Descriptor} {scroll : Option Scroll} {action : Action} :
    ofPayload kind text element scroll = .ok action ↔
      action.kind = kind ∧ action.text? = trimText text ∧
        action.element? = element ∧ action.scroll? = scroll := by
  have folded : (text.map Text.trim).filter (!·.isEmpty) = trimText text := rfl
  simp only [ofPayload, guard_eq_ok_iff, folded]
  generalize trimText text = text
  constructor
  · intro holds
    rcases holds with ⟨textOnly, elementOnly, noScroll, made⟩
    cases kind
    all_goals
      simp only [TaskKind.takesText, TaskKind.takesScroll, bind_eq_ok_iff, map_eq_ok_iff,
        require_eq_ok_iff, pure_eq_ok_iff, Bool.not_true, Bool.not_false, Bool.true_and,
        Bool.false_and, Option.isSome_eq_false_iff, Option.isNone_iff_eq_none]
        at textOnly elementOnly noScroll made
    case scrollToFindAndClick | scrollToFindAndClickIfExists =>
      rcases made with ⟨element, rfl, scroll, rfl, rfl⟩
      exact ⟨rfl, elementOnly.symm, rfl, rfl⟩
    case command | hasPackageInForeground | press | longPress | wait =>
      rcases made with ⟨text, rfl, rfl⟩
      exact ⟨rfl, rfl, textOnly.symm, noScroll.symm⟩
    case hasElementInForeground | click | clickIfExists | longClick =>
      rcases made with ⟨element, rfl, rfl⟩
      exact ⟨rfl, elementOnly.symm, rfl, noScroll.symm⟩
  · intro holds
    rcases holds with ⟨rfl, rfl, rfl, rfl⟩
    cases action with
    | click element optional => cases optional <;> exact ⟨rfl, rfl, rfl, rfl⟩
    | scrollToFindAndClick element scroll optional =>
        cases optional <;> exact ⟨rfl, rfl, rfl, rfl⟩
    | _ => exact ⟨rfl, rfl, rfl, rfl⟩

end Action

namespace Document

theorem Spells.trim_eq {text : String} {value : Json} (spells : Spells text value) :
    Text.trim text = text := by
  rcases spells with ⟨written, _, rfl⟩
  exact Text.trim_trim written

theorem trim_eq_of_requires {members : Members} {name text : String}
    (requires : Requires members name (Spells text)) : Text.trim text = text := by
  rcases requires with ⟨_, _, spells⟩
  exact spells.trim_eq

/-! ## Elements -/

/-- The members of an object describe an element.  A package may be padded, and a
blank one counts as none. -/
structure DescribesElement (descriptor : Descriptor) (members : Members) : Prop where
  names : NamedAmong descriptorNames members
  kind : Requires members "TYPE" (Spells descriptor.kind.name)
  value : Requires members "VALUE" (Spells descriptor.value)
  package : ∃ written,
    Holds members "PACKAGE" (fun package value => value = .text package) written ∧
      descriptor.package = Descriptor.trimPackage written

theorem readDescriptor_eq_ok_iff {context : String} {value : Json} {descriptor : Descriptor} :
    readDescriptor context value = .ok descriptor ↔
      IsObject (DescribesElement descriptor) value := by
  simp only [readDescriptor, bind_eq_ok_iff, asObject_eq_ok_iff, checkNames_eq_ok_iff,
    textProperty_eq_ok_iff, SelectorKind.ofName_eq_ok_iff, Descriptor.ofParts_eq_ok_iff,
    optionalProperty_eq_ok_iff fun _ _ => asPackage_eq_ok_iff]
  constructor
  · intro holds
    rcases holds with
      ⟨members, isObject, -, names, kindName, ⟨kindRead, -⟩, kind, isKind, value,
        ⟨valueRead, -⟩, written, packageRead, rfl, sameValue, samePackage⟩
    rw [trim_eq_of_requires kindRead] at isKind
    rw [trim_eq_of_requires valueRead] at sameValue
    exact ⟨members, isObject, names, isKind ▸ kindRead, sameValue ▸ valueRead, written,
      packageRead, samePackage⟩
  · intro holds
    rcases holds with
      ⟨members, isObject, names, kindRead, valueRead, written, packageRead, samePackage⟩
    exact ⟨members, isObject, (), names, descriptor.kind.name,
      ⟨kindRead, descriptor.kind.name_ne_empty⟩, descriptor.kind,
      trim_eq_of_requires kindRead, descriptor.value,
      ⟨valueRead, descriptor.value_ne_empty⟩, written, packageRead, rfl,
      (trim_eq_of_requires valueRead).symm, samePackage⟩

theorem descriptorProperty_eq_ok_iff {context name : String} {members : Members}
    {descriptor : Descriptor} :
    descriptorProperty context name members = .ok descriptor ↔
      Requires members name (IsObject (DescribesElement descriptor)) := by
  simp only [descriptorProperty, bind_eq_ok_iff, property_eq_ok_iff, readDescriptor_eq_ok_iff,
    Requires]

/-! ## Scrolling -/

/-- A natural number that an object may leave to its default. -/
def DescribesCount (members : Members) (name : String) (fallback number : Nat) : Prop :=
  ∃ written, Holds members name (fun number value => StandsFor value number) written ∧
    number = written.getD fallback

/-- The members of an object describe how a step is made. -/
def DescribesAction (members : Members) : ScrollAction → Prop
  | .buttons forward backward =>
      Requires members "SCROLL_ACTION" (Spells "USE_BUTTON") ∧
        Requires members "SCROLL_FORWARD" (IsObject (DescribesElement forward)) ∧
        Requires members "SCROLL_BACKWARD" (IsObject (DescribesElement backward))
  | .gesture axis container =>
      Requires members "SCROLL_ACTION" (Spells "USE_GESTURE") ∧
        Requires members "SCROLL_DIRECTION" (Spells axis.name) ∧
        Requires members "SCROLL_ELEMENT" (IsObject (DescribesElement container))

/-- The members of an object describe a way to scroll. -/
structure DescribesScroll (scroll : Scroll) (members : Members) : Prop where
  names : NamedAmong scrollNames members
  action : DescribesAction members scroll.action
  margin : DescribesCount members "SCROLL_MARGIN" Scroll.defaultMargin.toNat scroll.margin.toNat
  waitSeconds : DescribesCount members "SCROLL_WAIT_TIME" Scroll.defaultWaitSeconds.toNat
    scroll.waitSeconds.toNat

theorem readScrollAction_eq_ok_iff {context : String} {members : Members}
    {action : ScrollAction} :
    readScrollAction context members = .ok action ↔ DescribesAction members action := by
  simp only [readScrollAction, bind_eq_ok_iff, textProperty_eq_ok_iff]
  constructor
  · intro holds
    rcases holds with ⟨name, ⟨nameRead, -⟩, read⟩
    split at read
    · simp only [bind_eq_ok_iff, descriptorProperty_eq_ok_iff, pure_eq_ok_iff] at read
      rcases read with ⟨forward, forwardRead, backward, backwardRead, rfl⟩
      exact ⟨nameRead, forwardRead, backwardRead⟩
    · simp only [bind_eq_ok_iff, descriptorProperty_eq_ok_iff, pure_eq_ok_iff,
        textProperty_eq_ok_iff, Axis.ofName_eq_ok_iff] at read
      rcases read with ⟨axisName, ⟨axisRead, -⟩, axis, isAxis, container, containerRead, rfl⟩
      rw [trim_eq_of_requires axisRead] at isAxis
      exact ⟨nameRead, isAxis ▸ axisRead, containerRead⟩
    · cases read
  · intro describes
    cases action with
    | buttons forward backward =>
        rcases describes with ⟨nameRead, forwardRead, backwardRead⟩
        refine ⟨"USE_BUTTON", ⟨nameRead, by decide⟩, ?_⟩
        simp only [bind_eq_ok_iff, descriptorProperty_eq_ok_iff, pure_eq_ok_iff]
        exact ⟨forward, forwardRead, backward, backwardRead, rfl⟩
    | gesture axis container =>
        rcases describes with ⟨nameRead, axisRead, containerRead⟩
        refine ⟨"USE_GESTURE", ⟨nameRead, by decide⟩, ?_⟩
        simp only [bind_eq_ok_iff, descriptorProperty_eq_ok_iff, pure_eq_ok_iff,
          textProperty_eq_ok_iff, Axis.ofName_eq_ok_iff]
        exact ⟨axis.name, ⟨axisRead, axis.name_ne_empty⟩, axis,
          trim_eq_of_requires axisRead, container, containerRead, rfl⟩

/-- A number that was read up to the limit of a type, as a value of that type. -/
theorem describesCount_iff {τ : Type} {ofNat : Nat → τ} {toNat : τ → Nat} {limit : Nat}
    (toNat_ofNat : ∀ number ≤ limit, toNat (ofNat number) = number)
    (ofNat_toNat : ∀ value, ofNat (toNat value) = value) (bounded : ∀ value, toNat value ≤ limit)
    {members : Members} {name : String} {fallback result : τ} :
    (∃ read, Holds members name
        (fun number value => StandsFor value number ∧ number ≤ limit) read ∧
          (read.map ofNat).getD fallback = result) ↔
      DescribesCount members name (toNat fallback) (toNat result) := by
  constructor
  · intro holds
    rcases holds with ⟨none | number, holds, rfl⟩
    · exact ⟨none, holds, rfl⟩
    · rcases holds with ⟨value, gives, stands, within⟩
      exact ⟨some number, ⟨value, gives, stands⟩, toNat_ofNat number within⟩
  · intro holds
    rcases holds with ⟨none | number, holds, same⟩
    · have sameValue := congrArg ofNat same
      simp only [Option.getD_none, ofNat_toNat] at sameValue
      exact ⟨none, holds, sameValue.symm⟩
    · rcases holds with ⟨value, gives, stands⟩
      simp only [Option.getD_some] at same
      refine ⟨some number, ⟨value, gives, stands, same ▸ bounded result⟩, ?_⟩
      simp only [Option.map_some, Option.getD_some]
      rw [← same, ofNat_toNat]

theorem describesCount_iff_uint32 {members : Members} {name : String}
    {fallback result : UInt32} :
    (∃ read, Holds members name
        (fun number value => StandsFor value number ∧ number ≤ UInt32.size - 1) read ∧
          (read.map UInt32.ofNat).getD fallback = result) ↔
      DescribesCount members name fallback.toNat result.toNat :=
  describesCount_iff (fun _ => Count.toNat_ofNat_uint32) (fun _ => UInt32.ofNat_toNat)
    (fun value => Nat.le_pred_of_lt value.toNat_lt_size)

theorem describesCount_iff_uint64 {members : Members} {name : String}
    {fallback result : UInt64} :
    (∃ read, Holds members name
        (fun number value => StandsFor value number ∧ number ≤ UInt64.size - 1) read ∧
          (read.map UInt64.ofNat).getD fallback = result) ↔
      DescribesCount members name fallback.toNat result.toNat :=
  describesCount_iff (fun _ => Count.toNat_ofNat_uint64) (fun _ => UInt64.ofNat_toNat)
    (fun value => Nat.le_pred_of_lt value.toNat_lt_size)

theorem readScroll_eq_ok_iff {context : String} {value : Json} {scroll : Scroll} :
    readScroll context value = .ok scroll ↔ IsObject (DescribesScroll scroll) value := by
  simp only [readScroll, bind_eq_ok_iff, asObject_eq_ok_iff, checkNames_eq_ok_iff,
    readScrollAction_eq_ok_iff, pure_eq_ok_iff,
    optionalProperty_eq_ok_iff fun _ _ => readNatural_eq_ok_iff]
  constructor
  · intro holds
    rcases holds with
      ⟨members, isObject, -, names, action, actionRead, margin, marginRead, waitSeconds,
        waitRead, rfl⟩
    exact ⟨members, isObject, names, actionRead,
      describesCount_iff_uint32.1 ⟨margin, marginRead, rfl⟩,
      describesCount_iff_uint64.1 ⟨waitSeconds, waitRead, rfl⟩⟩
  · intro holds
    rcases holds with ⟨members, isObject, names, actionRead, marginRead, waitRead⟩
    rcases describesCount_iff_uint32.2 marginRead with ⟨margin, marginHolds, sameMargin⟩
    rcases describesCount_iff_uint64.2 waitRead with ⟨waitSeconds, waitHolds, sameWait⟩
    refine ⟨members, isObject, (), names, scroll.action, actionRead, margin, marginHolds,
      waitSeconds, waitHolds, ?_⟩
    cases scroll
    simp only [Scroll.mk.injEq]
    exact ⟨trivial, sameMargin, sameWait⟩

/-! ## Tasks -/

/-- The members of the payload of a task describe the text and the element of an
action. -/
structure DescribesPayload (action : Action) (members : Members) : Prop where
  names : NamedAmong payloadNames members
  text : Holds members "TEXT" (fun text value => Spells text value ∧ text ≠ "") action.text?
  element : Holds members "UI_ELEMENT"
    (fun descriptor => IsObject (DescribesElement descriptor)) action.element?

/-- The members of an object describe a task. -/
structure DescribesTask (task : Task) (members : Members) : Prop where
  names : NamedAmong taskNames members
  name : Requires members "NAME" (Spells task.name)
  named : task.name ≠ ""
  kind : Requires members "TYPE" (Spells task.action.kind.name)
  payload : Requires members "CONFIG" (IsObject (DescribesPayload task.action))
  scroll : Holds members "SCROLL_CONFIG"
    (fun scroll => IsObject (DescribesScroll scroll)) task.action.scroll?
  repeatCount : DescribesCount members "REPEAT_COUNT" Task.defaultRepeatCount.toNat
    task.repeatCount.toNat

theorem readPayload_eq_ok_iff {context : String} {members : Members} {text : Option String}
    {element : Option Descriptor} :
    readPayload context members = .ok (text, element) ↔
      NamedAmong payloadNames members ∧
        Holds members "TEXT" (fun text value => Spells text value ∧ text ≠ "") text ∧
        Holds members "UI_ELEMENT"
          (fun descriptor => IsObject (DescribesElement descriptor)) element := by
  simp only [readPayload, bind_eq_ok_iff, checkNames_eq_ok_iff, pure_eq_ok_iff,
    optionalProperty_eq_ok_iff fun _ _ => asText_eq_ok_iff,
    optionalProperty_eq_ok_iff fun _ _ => readDescriptor_eq_ok_iff, Prod.mk.injEq]
  constructor
  · intro holds
    rcases holds with ⟨-, names, _, textRead, _, elementRead, rfl, rfl⟩
    exact ⟨names, textRead, elementRead⟩
  · intro holds
    rcases holds with ⟨names, textRead, elementRead⟩
    exact ⟨(), names, text, textRead, element, elementRead, rfl, rfl⟩

/-- The text that a payload holds has no padding and is not blank. -/
theorem plain_of_holds {members : Members} {name : String} {text : Option String}
    (holds : Holds members name (fun text value => Spells text value ∧ text ≠ "") text) :
    ∀ words ∈ text, Text.trim words = words ∧ words ≠ "" := by
  intro words isText
  subst isText
  rcases holds with ⟨_, _, spells, nonblank⟩
  exact ⟨spells.trim_eq, nonblank⟩

theorem readRepeatCount_eq_ok_iff {context : String} {members : Members} {count : UInt32} :
    readRepeatCount context members = .ok count ↔
      DescribesCount members "REPEAT_COUNT" Task.defaultRepeatCount.toNat count.toNat := by
  rw [← describesCount_iff_uint32, readRepeatCount]
  cases read : property? members "REPEAT_COUNT" with
  | none =>
      have lacks := property?_eq_none_iff.1 read
      constructor
      · intro same
        cases same
        exact ⟨none, lacks, rfl⟩
      · intro holds
        rcases holds with ⟨none | number, holds, rfl⟩
        · rfl
        · rcases holds with ⟨value, gives, _⟩
          exact (lacks value gives).elim
  | some value =>
      have gives := property?_eq_some_iff.1 read
      simp only
      split
      next refused =>
        constructor
        · intro impossible
          cases impossible
        · intro holds
          rcases holds with ⟨none | number, holds, rfl⟩
          · exact (holds value gives).elim
          · rcases holds with ⟨other, givesOther, stands⟩
            rw [← gives.unique givesOther, ← count?_eq_some_iff, refused] at stands
            cases stands
      next number counted =>
        constructor
        · intro same
          cases same
          exact ⟨some number, ⟨value, gives, count?_eq_some_iff.1 counted⟩, rfl⟩
        · intro holds
          rcases holds with ⟨none | other, holds, rfl⟩
          · exact (holds value gives).elim
          · rcases holds with ⟨otherValue, givesOther, stands⟩
            rw [← gives.unique givesOther, ← count?_eq_some_iff, counted] at stands
            cases stands
            rfl

theorem readTask_eq_ok_iff {place : String} {value : Json} {task : Task} :
    readTask place value = .ok task ↔ IsObject (DescribesTask task) value := by
  simp only [readTask, bind_eq_ok_iff, asObject_eq_ok_iff, checkNames_eq_ok_iff,
    textProperty_eq_ok_iff, TaskKind.ofName_eq_ok_iff, property_eq_ok_iff, Prod.exists,
    readPayload_eq_ok_iff, mapError_eq_ok_iff, Action.ofPayload_eq_ok_iff, pure_eq_ok_iff,
    readRepeatCount_eq_ok_iff, optionalProperty_eq_ok_iff fun _ _ => readScroll_eq_ok_iff]
  constructor
  · intro holds
    rcases holds with
      ⟨members, isObject, -, names, name, ⟨nameRead, named⟩, kindName, ⟨kindRead, -⟩, kind,
        isKind, _, configRead, payload, rfl, text, element, ⟨payloadNames, textRead, elementRead⟩,
        scroll, scrollRead, action, ⟨rfl, sameText, rfl, rfl⟩, repeatCount, countRead, rfl⟩
    rw [trim_eq_of_requires kindRead] at isKind
    rw [Action.trimText_eq_self (plain_of_holds textRead)] at sameText
    subst isKind sameText
    exact ⟨members, isObject, names, nameRead, named, kindRead,
      ⟨_, configRead, payload, rfl, payloadNames, textRead, elementRead⟩, scrollRead, countRead⟩
  · intro holds
    rcases holds with
      ⟨members, isObject, names, nameRead, named, kindRead,
        ⟨_, configRead, payload, rfl, payloadNames, textRead, elementRead⟩, scrollRead, countRead⟩
    refine ⟨members, isObject, (), names, task.name, ⟨nameRead, named⟩, task.action.kind.name,
      ⟨kindRead, task.action.kind.name_ne_empty⟩, task.action.kind,
      trim_eq_of_requires kindRead, _, configRead, payload, rfl, task.action.text?,
      task.action.element?, ⟨payloadNames, textRead, elementRead⟩, task.action.scroll?,
      scrollRead, task.action, ⟨rfl, ?_, rfl, rfl⟩, task.repeatCount, countRead, rfl⟩
    exact (Action.trimText_eq_self (plain_of_holds textRead)).symm

theorem readTasks_eq_ok_iff {context : String} {index : Nat} {items : List Json}
    {tasks : List Task} :
    readTasks context index items = .ok tasks ↔
      List.Forall₂ (fun item task => IsObject (DescribesTask task) item) items tasks := by
  induction items generalizing index tasks with
  | nil => cases tasks <;> simp [readTasks]
  | cons item rest ih =>
      simp only [readTasks, bind_eq_ok_iff, pure_eq_ok_iff, readTask_eq_ok_iff, ih]
      constructor
      · intro holds
        rcases holds with ⟨task, taskRead, tasks, tasksRead, rfl⟩
        exact .cons taskRead tasksRead
      · intro holds
        rcases holds with _ | ⟨taskRead, tasksRead⟩
        exact ⟨_, taskRead, _, tasksRead, rfl⟩

/-- A value describes a workflow that has a certain name. -/
def DescribesWorkflow (name : String) (workflow : Workflow) (value : Json) : Prop :=
  workflow.name = name ∧ ∃ items, value = .array items ∧
    List.Forall₂ (fun item task => IsObject (DescribesTask task) item) items workflow.tasks

theorem readWorkflow_eq_ok_iff {name context : String} {value : Json} {workflow : Workflow} :
    readWorkflow name context value = .ok workflow ↔ DescribesWorkflow name workflow value := by
  cases value with
  | array items =>
      simp only [readWorkflow, bind_eq_ok_iff, readTasks_eq_ok_iff, pure_eq_ok_iff]
      constructor
      · intro holds
        rcases holds with ⟨tasks, tasksRead, rfl⟩
        exact ⟨rfl, items, rfl, tasksRead⟩
      · intro holds
        rcases holds with ⟨rfl, _, same, tasksRead⟩
        cases same
        exact ⟨workflow.tasks, tasksRead, rfl⟩
  | null | bool _ | number _ | text _ | object _ => simp [readWorkflow, DescribesWorkflow]

end Document

end Screenplay
