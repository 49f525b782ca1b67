import Screenplay.Proofs.Document.Sections

/-!
# The grammar of documents

Which values are documents, said without regard to what they describe: which
members an object may have, which of them it needs, and how the parts of an object
depend on each other.  The value of an element has to suit its kind, and so has its
package; the kind of a task decides which of text, element and way to scroll it has.

A value of this form describes something, and only such values do; so the reader of
documents accepts exactly this grammar.
-/

namespace Screenplay

namespace Descriptor

/-- The values that are patterns rather than plain texts. -/
def IsPattern (kind : SelectorKind) : Prop :=
  kind = .text ∨ kind = .description

/-- The package, without padding, that goes with a kind. -/
def AdmitsPackage : SelectorKind → Option String → Prop
  | .resourceId, package => package ≠ none
  | .className, _ => True
  | .text, package | .textContains, package | .description, package => package = none

/-- Parts without padding stand for a query exactly when they suit each other. -/
theorem exists_queryOf_iff {kind : SelectorKind} {value : String} {package : Option String} :
    (∃ query, queryOf kind value package = .ok query) ↔
      value ≠ "" ∧ (IsPattern kind → ∃ pattern, Pattern.ofSource? value = some pattern) ∧
        AdmitsPackage kind package := by
  by_cases blank : value = ""
  · simp [queryOf, blank]
  · cases kind <;> cases package <;>
      cases compiled : Pattern.ofSource? value <;>
      simp [queryOf, blank, patternOf, compiled, IsPattern, AdmitsPackage, Except.map]

/-- There is a descriptor with given parts exactly when they have no padding and suit
each other. -/
theorem exists_parts_iff {kind : SelectorKind} {value : String} {package : Option String} :
    (∃ descriptor : Descriptor, descriptor.kind = kind ∧ descriptor.value = value ∧
        descriptor.package = package) ↔
      Text.trim value = value ∧ trimPackage package = package ∧
        ∃ query, queryOf kind value package = .ok query := by
  constructor
  · intro holds
    rcases holds with ⟨descriptor, rfl, rfl, rfl⟩
    exact ⟨descriptor.value_trimmed, descriptor.package_trimmed, _, descriptor.denotes⟩
  · intro holds
    rcases holds with ⟨valueTrimmed, packageTrimmed, query, denotes⟩
    exact ⟨⟨kind, value, package, query, valueTrimmed, packageTrimmed, denotes⟩, rfl, rfl, rfl⟩

theorem trimPackage_eq_none_iff {package : Option String} :
    trimPackage package = none ↔ ∀ written ∈ package, Text.trim written = "" := by
  cases package <;> simp [trimPackage, Option.filter]

end Descriptor

namespace Action

/-- An action has the parts that it is asked to have. -/
def HasParts (kind : TaskKind) (text : Option String) (element : Option Descriptor)
    (scroll : Option Scroll) (action : Action) : Prop :=
  action.kind = kind ∧ action.text? = text ∧ action.element? = element ∧ action.scroll? = scroll

theorem exists_of_text {kind : TaskKind} (takesText : kind.takesText = true) (words : String) :
    ∃ action, HasParts kind (some words) none none action := by
  cases kind with
  | command => exact ⟨.command words, rfl, rfl, rfl, rfl⟩
  | hasPackageInForeground => exact ⟨.hasPackageInForeground words, rfl, rfl, rfl, rfl⟩
  | press => exact ⟨.press words, rfl, rfl, rfl, rfl⟩
  | longPress => exact ⟨.longPress words, rfl, rfl, rfl, rfl⟩
  | wait => exact ⟨.wait words, rfl, rfl, rfl, rfl⟩
  | _ => cases takesText

theorem exists_of_element {kind : TaskKind} (noText : kind.takesText = false)
    (noScroll : kind.takesScroll = false) (element : Descriptor) :
    ∃ action, HasParts kind none (some element) none action := by
  cases kind with
  | hasElementInForeground => exact ⟨.hasElementInForeground element, rfl, rfl, rfl, rfl⟩
  | click => exact ⟨.click element false, rfl, rfl, rfl, rfl⟩
  | clickIfExists => exact ⟨.click element true, rfl, rfl, rfl, rfl⟩
  | longClick => exact ⟨.longClick element, rfl, rfl, rfl, rfl⟩
  | scrollToFindAndClick | scrollToFindAndClickIfExists => cases noScroll
  | _ => cases noText

theorem exists_of_scroll {kind : TaskKind} (takesScroll : kind.takesScroll = true)
    (element : Descriptor) (scroll : Scroll) :
    ∃ action, HasParts kind none (some element) (some scroll) action := by
  cases kind with
  | scrollToFindAndClick =>
      exact ⟨.scrollToFindAndClick element scroll false, rfl, rfl, rfl, rfl⟩
  | scrollToFindAndClickIfExists =>
      exact ⟨.scrollToFindAndClick element scroll true, rfl, rfl, rfl, rfl⟩
  | _ => cases takesScroll

/-- There is an action of a kind with given parts exactly when the parts are those that
the kind needs. -/
theorem exists_hasParts_iff {kind : TaskKind} {text : Option String}
    {element : Option Descriptor} {scroll : Option Scroll} :
    (∃ action, HasParts kind text element scroll action) ↔
      text.isSome = kind.takesText ∧ (element.isSome = !kind.takesText) ∧
        scroll.isSome = kind.takesScroll := by
  constructor
  · intro holds
    rcases holds with ⟨action, rfl, rfl, rfl, rfl⟩
    cases action with
    | click element optional => cases optional <;> exact ⟨rfl, rfl, rfl⟩
    | scrollToFindAndClick element scroll optional =>
        cases optional <;> exact ⟨rfl, rfl, rfl⟩
    | _ => exact ⟨rfl, rfl, rfl⟩
  · intro holds
    rcases holds with ⟨hasText, hasElement, hasScroll⟩
    have exclusive : kind.takesText = true → kind.takesScroll = false := by
      cases kind <;> decide
    cases text with
    | some words =>
        have takesText : kind.takesText = true := hasText.symm
        rw [takesText, Bool.not_true, Option.isSome_eq_false_iff, Option.isNone_iff_eq_none]
          at hasElement
        rw [exclusive takesText, Option.isSome_eq_false_iff, Option.isNone_iff_eq_none]
          at hasScroll
        rw [hasElement, hasScroll]
        exact exists_of_text takesText words
    | none =>
        have noText : kind.takesText = false := hasText.symm
        rw [noText, Bool.not_false, Option.isSome_iff_exists] at hasElement
        rcases hasElement with ⟨element, rfl⟩
        cases scroll with
        | none => exact exists_of_element noText hasScroll.symm element
        | some scroll => exact exists_of_scroll hasScroll.symm element scroll

end Action

namespace Document

/-! ## Forms -/

/-- A text that is not blank. -/
def IsText (value : Json) : Prop :=
  ∃ text, Spells text value ∧ text ≠ ""

/-- A natural number up to a limit, as a JSON number or in digits. -/
def IsNatural (limit : Nat) (value : Json) : Prop :=
  ∃ number, StandsFor value number ∧ number ≤ limit

/-- The value of an element of a kind. -/
def IsElementValue (kind : SelectorKind) (value : Json) : Prop :=
  ∃ text, Spells text value ∧ text ≠ "" ∧
    (Descriptor.IsPattern kind → ∃ pattern, Pattern.ofSource? text = some pattern)

/-- The package of an element of a kind. -/
def HasPackage (members : Members) : SelectorKind → Prop
  | .resourceId => Requires members "PACKAGE" IsText
  | .className => Permits members "PACKAGE" fun value => ∃ package, value = .text package
  | .text | .textContains | .description => Permits members "PACKAGE" (Spells "")

/-- The members of an element. -/
structure IsElement (members : Members) : Prop where
  names : NamedAmong ["TYPE", "VALUE", "PACKAGE"] members
  parts : ∃ kind : SelectorKind, Requires members "TYPE" (Spells kind.name) ∧
    Requires members "VALUE" (IsElementValue kind) ∧ HasPackage members kind

/-- The members that say how a step is made. -/
def IsAction (members : Members) : Prop :=
  (Requires members "SCROLL_ACTION" (Spells "USE_BUTTON") ∧
      Requires members "SCROLL_FORWARD" (IsObject IsElement) ∧
      Requires members "SCROLL_BACKWARD" (IsObject IsElement)) ∨
    (Requires members "SCROLL_ACTION" (Spells "USE_GESTURE") ∧
      (Requires members "SCROLL_DIRECTION" (Spells "VERTICAL") ∨
        Requires members "SCROLL_DIRECTION" (Spells "HORIZONTAL")) ∧
      Requires members "SCROLL_ELEMENT" (IsObject IsElement))

/-- The members of a way to scroll. -/
structure IsScroll (members : Members) : Prop where
  names : NamedAmong
    ["SCROLL_ACTION", "SCROLL_DIRECTION", "SCROLL_FORWARD", "SCROLL_BACKWARD",
      "SCROLL_ELEMENT", "SCROLL_MARGIN", "SCROLL_WAIT_TIME"] members
  action : IsAction members
  margin : Permits members "SCROLL_MARGIN" (IsNatural (UInt32.size - 1))
  waitSeconds : Permits members "SCROLL_WAIT_TIME" (IsNatural (UInt64.size - 1))

/-- A property that an object has to give exactly when it is needed. -/
def RequiresWhen (needed : Bool) (members : Members) (name : String)
    (form : Json → Prop) : Prop :=
  if needed then Requires members name form else Lacks members name

/-- The members of the payload of a kind of task. -/
structure IsPayload (kind : TaskKind) (members : Members) : Prop where
  names : NamedAmong ["TEXT", "UI_ELEMENT"] members
  text : RequiresWhen kind.takesText members "TEXT" IsText
  element : RequiresWhen (!kind.takesText) members "UI_ELEMENT" (IsObject IsElement)

/-- The members of a task. -/
structure IsTask (members : Members) : Prop where
  names : NamedAmong ["NAME", "TYPE", "CONFIG", "REPEAT_COUNT", "SCROLL_CONFIG"] members
  name : Requires members "NAME" IsText
  parts : ∃ kind : TaskKind, Requires members "TYPE" (Spells kind.name) ∧
    Requires members "CONFIG" (IsObject (IsPayload kind)) ∧
    RequiresWhen kind.takesScroll members "SCROLL_CONFIG" (IsObject IsScroll)
  repeatCount : Permits members "REPEAT_COUNT" (IsNatural (UInt32.size - 1))

/-- The array of the tasks of a workflow. -/
def IsWorkflow (value : Json) : Prop :=
  ∃ items, value = .array items ∧ ∀ item ∈ items, IsObject IsTask item

/-- The entries of a section, whose names differ. -/
structure IsSection (form : Json → Prop) (entries : Members) : Prop where
  named : ∀ entry ∈ entries, Text.trim entry.1 ≠ ""
  distinct : (entries.map fun entry => Text.trim entry.1).Nodup
  formed : ∀ entry ∈ entries, form entry.2

/-- The members of a document. -/
structure IsConfig (members : Members) : Prop where
  names : NamedAmong ["COMMANDS", "PACKAGES", "ACTIONS", "UI_ELEMENTS", "WORKFLOWS"] members
  commands : Permits members "COMMANDS" (IsObject (IsSection IsText))
  packages : Permits members "PACKAGES" (IsObject (IsSection IsText))
  actions : Permits members "ACTIONS" (IsObject (IsSection IsText))
  elements : Permits members "UI_ELEMENTS" (IsObject (IsSection (IsObject IsElement)))
  workflows : Permits members "WORKFLOWS" (IsObject (IsSection IsWorkflow))

/-! ## Properties of what is described -/

variable {α : Type}

theorem exists_isObject_iff {form : α → Members → Prop} {shape : Members → Prop}
    (exists_form_iff : ∀ members, (∃ result, form result members) ↔ shape members)
    (value : Json) : (∃ result, IsObject (form result) value) ↔ IsObject shape value := by
  constructor
  · intro holds
    rcases holds with ⟨result, members, isObject, formed⟩
    exact ⟨members, isObject, (exists_form_iff members).1 ⟨result, formed⟩⟩
  · intro holds
    rcases holds with ⟨members, isObject, shaped⟩
    rcases (exists_form_iff members).2 shaped with ⟨result, formed⟩
    exact ⟨result, members, isObject, formed⟩

theorem exists_requires_iff {members : Members} {name : String} {form : α → Json → Prop}
    {shape : Json → Prop}
    (exists_form_iff : ∀ value, (∃ result, form result value) ↔ shape value) :
    (∃ result, Requires members name (form result)) ↔ Requires members name shape := by
  constructor
  · intro holds
    rcases holds with ⟨result, value, gives, formed⟩
    exact ⟨value, gives, (exists_form_iff value).1 ⟨result, formed⟩⟩
  · intro holds
    rcases holds with ⟨value, gives, shaped⟩
    rcases (exists_form_iff value).2 shaped with ⟨result, formed⟩
    exact ⟨result, value, gives, formed⟩

theorem exists_holds_isSome_iff {members : Members} {name : String} {form : α → Json → Prop}
    {shape : Json → Prop} (exists_form_iff : ∀ value, (∃ result, form result value) ↔ shape value)
    {needed : Bool} :
    (∃ result, Holds members name form result ∧ result.isSome = needed) ↔
      RequiresWhen needed members name shape := by
  rw [exists_holds_iff]
  cases needed <;> simp [RequiresWhen, Requires, exists_form_iff]

/-! ## Elements -/

theorem isText_iff {value : Json} :
    IsText value ↔ ∃ written, value = .text written ∧ Text.trim written ≠ "" := by
  constructor
  · intro holds
    rcases holds with ⟨_, ⟨written, isText, rfl⟩, nonblank⟩
    exact ⟨written, isText, nonblank⟩
  · intro holds
    rcases holds with ⟨written, isText, nonblank⟩
    exact ⟨_, ⟨written, isText, rfl⟩, nonblank⟩

theorem hasPackage_iff {members : Members} {kind : SelectorKind} :
    HasPackage members kind ↔ ∃ written,
      Holds members "PACKAGE" (fun package value => value = .text package) written ∧
        Descriptor.AdmitsPackage kind (Descriptor.trimPackage written) := by
  rw [exists_holds_iff]
  cases kind <;>
    simp [HasPackage, Descriptor.AdmitsPackage, Permits, Requires, isText_iff, Spells,
      Descriptor.trimPackage_eq_none_iff]

theorem exists_describesElement_iff (members : Members) :
    (∃ descriptor, DescribesElement descriptor members) ↔ IsElement members := by
  constructor
  · intro holds
    rcases holds with
      ⟨descriptor, names, kindRead, ⟨value, gives, spells⟩, written, packageRead, same⟩
    rcases Descriptor.exists_queryOf_iff.1 ⟨_, descriptor.denotes⟩ with
      ⟨nonblank, compiles, admits⟩
    refine ⟨names, descriptor.kind, kindRead, ⟨value, gives, descriptor.value, spells, nonblank,
      compiles⟩, ?_⟩
    rw [hasPackage_iff]
    exact ⟨written, packageRead, same ▸ admits⟩
  · intro holds
    rcases holds with
      ⟨names, kind, kindRead, ⟨value, gives, text, spells, nonblank, compiles⟩, package⟩
    rcases hasPackage_iff.1 package with ⟨written, packageRead, admits⟩
    obtain ⟨descriptor, rfl, rfl, samePackage⟩ :=
      Descriptor.exists_parts_iff.2 ⟨spells.trim_eq, Descriptor.trimPackage_trimPackage written,
        Descriptor.exists_queryOf_iff.2 ⟨nonblank, compiles, admits⟩⟩
    exact ⟨descriptor, names, kindRead, ⟨value, gives, spells⟩, written, packageRead, samePackage⟩

theorem exists_element_iff (value : Json) :
    (∃ descriptor, IsObject (DescribesElement descriptor) value) ↔ IsObject IsElement value :=
  exists_isObject_iff exists_describesElement_iff value

/-! ## Ways to scroll -/

/-- A number that may be left to its default is read whenever it stays within its limit. -/
theorem exists_count_iff {τ : Type} {ofNat : Nat → τ} {fallback : τ} {limit : Nat}
    {members : Members} {name : String} :
    (∃ result, ∃ read, Holds members name
        (fun number value => StandsFor value number ∧ number ≤ limit) read ∧
          (read.map ofNat).getD fallback = result) ↔
      Permits members name (IsNatural limit) := by
  constructor
  · intro holds
    rcases holds with ⟨_, none | number, holds, -⟩
    · exact .inl holds
    · rcases holds with ⟨value, gives, natural⟩
      exact .inr ⟨value, gives, number, natural⟩
  · intro holds
    rcases holds with lacks | ⟨value, gives, number, natural⟩
    · exact ⟨_, none, lacks, rfl⟩
    · exact ⟨_, some number, ⟨value, gives, natural⟩, rfl⟩

theorem exists_describesCount_iff_uint32 (fallback : UInt32) {members : Members}
    {name : String} :
    (∃ count : UInt32, DescribesCount members name fallback.toNat count.toNat) ↔
      Permits members name (IsNatural (UInt32.size - 1)) := by
  simp only [← describesCount_iff_uint32]
  exact exists_count_iff

theorem exists_describesCount_iff_uint64 (fallback : UInt64) {members : Members}
    {name : String} :
    (∃ count : UInt64, DescribesCount members name fallback.toNat count.toNat) ↔
      Permits members name (IsNatural (UInt64.size - 1)) := by
  simp only [← describesCount_iff_uint64]
  exact exists_count_iff

theorem exists_describesAction_iff {members : Members} :
    (∃ action, DescribesAction members action) ↔ IsAction members := by
  simp only [IsAction, ← exists_requires_iff exists_element_iff]
  constructor
  · intro holds
    rcases holds with ⟨action, describes⟩
    cases action with
    | buttons forward backward =>
        rcases describes with ⟨nameRead, forwardRead, backwardRead⟩
        exact .inl ⟨nameRead, ⟨forward, forwardRead⟩, backward, backwardRead⟩
    | gesture axis container =>
        rcases describes with ⟨nameRead, axisRead, containerRead⟩
        refine .inr ⟨nameRead, ?_, container, containerRead⟩
        cases axis with
        | vertical => exact .inl axisRead
        | horizontal => exact .inr axisRead
  · intro holds
    rcases holds with
      ⟨nameRead, ⟨forward, forwardRead⟩, backward, backwardRead⟩ |
        ⟨nameRead, axisRead | axisRead, container, containerRead⟩
    · exact ⟨.buttons forward backward, nameRead, forwardRead, backwardRead⟩
    · exact ⟨.gesture .vertical container, nameRead, axisRead, containerRead⟩
    · exact ⟨.gesture .horizontal container, nameRead, axisRead, containerRead⟩

theorem exists_describesScroll_iff (members : Members) :
    (∃ scroll, DescribesScroll scroll members) ↔ IsScroll members := by
  constructor
  · intro holds
    rcases holds with ⟨scroll, names, actionRead, marginRead, waitRead⟩
    exact ⟨names, exists_describesAction_iff.1 ⟨_, actionRead⟩,
      (exists_describesCount_iff_uint32 _).1 ⟨scroll.margin, marginRead⟩,
      (exists_describesCount_iff_uint64 _).1 ⟨scroll.waitSeconds, waitRead⟩⟩
  · intro holds
    rcases holds with ⟨names, isAction, isMargin, isWait⟩
    rcases exists_describesAction_iff.2 isAction with ⟨action, actionRead⟩
    rcases (exists_describesCount_iff_uint32 _).2 isMargin with ⟨margin, marginRead⟩
    rcases (exists_describesCount_iff_uint64 _).2 isWait with ⟨waitSeconds, waitRead⟩
    exact ⟨⟨action, margin, waitSeconds⟩, names, actionRead, marginRead, waitRead⟩

theorem exists_scroll_iff (value : Json) :
    (∃ scroll, IsObject (DescribesScroll scroll) value) ↔ IsObject IsScroll value :=
  exists_isObject_iff exists_describesScroll_iff value

/-! ## Tasks -/

theorem exists_text_iff (value : Json) :
    (∃ text, Spells text value ∧ text ≠ "") ↔ IsText value :=
  Iff.rfl

/-- The parts of a task that go together: its kind, its payload and its way to scroll. -/
theorem exists_parts_iff {payload members : Members} {kind : TaskKind} :
    (∃ action : Action, action.kind = kind ∧ DescribesPayload action payload ∧
        Holds members "SCROLL_CONFIG" (fun scroll => IsObject (DescribesScroll scroll))
          action.scroll?) ↔
      IsPayload kind payload ∧
        RequiresWhen kind.takesScroll members "SCROLL_CONFIG" (IsObject IsScroll) := by
  rw [← exists_holds_isSome_iff exists_scroll_iff]
  constructor
  · intro holds
    rcases holds with ⟨action, rfl, ⟨names, textRead, elementRead⟩, scrollRead⟩
    rcases Action.exists_hasParts_iff.1 ⟨action, rfl, rfl, rfl, rfl⟩ with
      ⟨hasText, hasElement, hasScroll⟩
    exact ⟨⟨names, (exists_holds_isSome_iff exists_text_iff).1 ⟨_, textRead, hasText⟩,
      (exists_holds_isSome_iff exists_element_iff).1 ⟨_, elementRead, hasElement⟩⟩, _,
      scrollRead, hasScroll⟩
  · intro holds
    rcases holds with ⟨⟨names, isText, isElement⟩, scroll, scrollRead, hasScroll⟩
    rcases (exists_holds_isSome_iff exists_text_iff).2 isText with ⟨text, textRead, hasText⟩
    rcases (exists_holds_isSome_iff exists_element_iff).2 isElement with
      ⟨element, elementRead, hasElement⟩
    rcases Action.exists_hasParts_iff.2 ⟨hasText, hasElement, hasScroll⟩ with
      ⟨action, sameKind, rfl, rfl, rfl⟩
    exact ⟨action, sameKind, ⟨names, textRead, elementRead⟩, scrollRead⟩

theorem exists_describesTask_iff (members : Members) :
    (∃ task, DescribesTask task members) ↔ IsTask members := by
  constructor
  · intro holds
    rcases holds with
      ⟨task, names, ⟨value, gives, spells⟩, named, kindRead,
        ⟨config, configRead, payload, isObject, describes⟩, scrollRead, countRead⟩
    rcases exists_parts_iff.1 ⟨_, rfl, describes, scrollRead⟩ with ⟨isPayload, isScroll⟩
    exact ⟨names, ⟨value, gives, _, spells, named⟩,
      ⟨task.action.kind, kindRead, ⟨config, configRead, payload, isObject, isPayload⟩, isScroll⟩,
      (exists_describesCount_iff_uint32 _).1 ⟨task.repeatCount, countRead⟩⟩
  · intro holds
    rcases holds with
      ⟨names, ⟨value, gives, name, spells, named⟩,
        ⟨kind, kindRead, ⟨config, configRead, payload, isObject, isPayload⟩, isScroll⟩, isCount⟩
    rcases exists_parts_iff.2 ⟨isPayload, isScroll⟩ with ⟨action, rfl, describes, scrollRead⟩
    rcases (exists_describesCount_iff_uint32 _).2 isCount with ⟨repeatCount, countRead⟩
    exact ⟨⟨name, action, repeatCount⟩, names, ⟨value, gives, spells⟩, named, kindRead,
      ⟨config, configRead, payload, isObject, describes⟩, scrollRead, countRead⟩

theorem exists_task_iff (value : Json) :
    (∃ task, IsObject (DescribesTask task) value) ↔ IsObject IsTask value :=
  exists_isObject_iff exists_describesTask_iff value

theorem exists_describesWorkflow_iff {name : String} {value : Json} :
    (∃ workflow, DescribesWorkflow name workflow value) ↔ IsWorkflow value := by
  constructor
  · intro holds
    rcases holds with ⟨workflow, rfl, items, isArray, described⟩
    refine ⟨items, isArray, fun item member => ?_⟩
    rcases exists_of_forall₂_of_mem described member with ⟨task, -, taskRead⟩
    exact (exists_task_iff item).1 ⟨task, taskRead⟩
  · intro holds
    rcases holds with ⟨items, isArray, each⟩
    simp only [← exists_task_iff] at each
    rcases exists_forall₂_of_forall each with ⟨tasks, described⟩
    exact ⟨⟨name, tasks⟩, rfl, items, isArray, described⟩

/-! ## Documents -/

theorem exists_describesEntries_iff {form : String → α → Json → Prop} {shape : Json → Prop}
    (exists_form_iff : ∀ name value, (∃ result, form name result value) ↔ shape value)
    (entries : Members) :
    (∃ map, DescribesEntries form map entries) ↔ IsSection shape entries := by
  constructor
  · intro holds
    rcases holds with ⟨map, ⟨named, distinct⟩, described, -⟩
    rw [List.map_map] at distinct
    refine ⟨named, distinct, fun entry member => ?_⟩
    rcases described entry member with ⟨value, -, formed⟩
    exact (exists_form_iff _ _).1 ⟨value, formed⟩
  · intro holds
    rcases holds with ⟨named, distinct, formed⟩
    have each : ∀ entry ∈ entries.map unpadded, ∃ named, EntryForm form entry named := by
      intro entry member
      rcases List.mem_map.1 member with ⟨padded, among, rfl⟩
      rcases (exists_form_iff (Text.trim padded.1) _).2 (formed padded among) with ⟨value, formed⟩
      exact ⟨(_, value), rfl, formed⟩
    rcases exists_forall₂_of_forall each with ⟨values, related⟩
    have sameNames := names_eq_of_forall₂ related fun _ _ formed => formed.1
    have defines : Defines entries := ⟨named, by rwa [List.map_map]⟩
    rcases exists_sorted (sameNames ▸ defines.distinct) with ⟨sorted, increasing, same⟩
    refine ⟨⟨sorted, increasing⟩, defines, ?_, ?_⟩
    · intro entry member
      rcases exists_of_forall₂_of_mem related (List.mem_map_of_mem member) with
        ⟨⟨name, value⟩, among, rfl, formed⟩
      exact ⟨value, NameMap.get?_eq_some_iff.2 (same.mem_iff.2 among), formed⟩
    · intro name value found
      obtain ⟨entry, member, sameName, -⟩ := exists_of_forall₂_of_mem related.flip
        (same.mem_iff.1 (NameMap.get?_eq_some_iff.1 found))
      rcases List.mem_map.1 member with ⟨padded, among, rfl⟩
      exact ⟨padded, among, sameName⟩

theorem exists_describesSection_iff (part : Section) {form : String → α → Json → Prop}
    {shape : Json → Prop}
    (exists_form_iff : ∀ name value, (∃ result, form name result value) ↔ shape value)
    {members : Members} :
    (∃ map, DescribesSection part form map members) ↔
      Permits members part.name (IsObject (IsSection shape)) := by
  have exists_section_iff := exists_isObject_iff (exists_describesEntries_iff exists_form_iff)
  simp only [DescribesSection, exists_or, Permits, exists_requires_iff exists_section_iff,
    exists_and_left, exists_eq, and_true]

/-- A value is accepted as a configuration exactly when it is of the form of
documents. -/
theorem ofJson_accepts_iff (value : Json) :
    (∃ config, Config.ofJson value = .ok config) ↔ IsObject IsConfig value := by
  have isText : ∀ name value, (∃ text, DescribesText name text value) ↔ IsText value :=
    fun _ _ => Iff.rfl
  have isElement : ∀ name value, (∃ descriptor, DescribesNamedElement name descriptor value) ↔
      IsObject IsElement value :=
    fun _ => exists_element_iff
  have isWorkflow : ∀ name value, (∃ workflow, DescribesWorkflow name workflow value) ↔
      IsWorkflow value :=
    fun _ _ => exists_describesWorkflow_iff
  simp only [ofJson_eq_ok_iff]
  refine exists_isObject_iff (fun members => ?_) value
  constructor
  · intro holds
    rcases holds with ⟨config, names, commands, packages, actions, elements, workflows⟩
    exact ⟨names, (exists_describesSection_iff .commands isText).1 ⟨_, commands⟩,
      (exists_describesSection_iff .packages isText).1 ⟨_, packages⟩,
      (exists_describesSection_iff .actions isText).1 ⟨_, actions⟩,
      (exists_describesSection_iff .elements isElement).1 ⟨_, elements⟩,
      (exists_describesSection_iff .workflows isWorkflow).1 ⟨_, workflows⟩⟩
  · intro holds
    rcases holds with ⟨names, isCommands, isPackages, isActions, isElements, isWorkflows⟩
    rcases (exists_describesSection_iff .commands isText).2 isCommands with
      ⟨commands, commandsRead⟩
    rcases (exists_describesSection_iff .packages isText).2 isPackages with
      ⟨packages, packagesRead⟩
    rcases (exists_describesSection_iff .actions isText).2 isActions with ⟨actions, actionsRead⟩
    rcases (exists_describesSection_iff .elements isElement).2 isElements with
      ⟨elements, elementsRead⟩
    rcases (exists_describesSection_iff .workflows isWorkflow).2 isWorkflows with
      ⟨workflows, workflowsRead⟩
    exact ⟨⟨⟨commands, packages, actions, elements⟩, workflows⟩, names, commandsRead,
      packagesRead, actionsRead, elementsRead, workflowsRead⟩

end Document

end Screenplay
