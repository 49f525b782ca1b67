import Screenplay.Proofs.Document.Objects
import Screenplay.Proofs.Document.OpenTask
import Screenplay.Proofs.Task.Count
import Screenplay.Proofs.Text.Literal

/-!
# Reading the counts of a task

The three counts are read by different readers and have different limits, but the same
values count as numbers: natural numbers that are held as such, and texts that are numerals
but for padding.

A document in which a count is left open may be completed with any value.  If it is accepted
at all, then it is accepted with the numbers up to the limit and with nothing else, and what
it describes differs in that number alone.
-/

namespace Screenplay.Document

variable {members others : Members} {number : Nat} {task : Task}

/-! ## Ways to scroll with another count -/

/-- How a step is made does not depend on the counts. -/
theorem AlikeBut.describesAction_iff {name : String} (alike : AlikeBut name members others)
    (isCount : name ∉ ["SCROLL_ACTION", "SCROLL_DIRECTION", "SCROLL_FORWARD", "SCROLL_BACKWARD",
      "SCROLL_ELEMENT"]) {action : ScrollAction} :
    DescribesAction members action ↔ DescribesAction others action := by
  simp only [List.mem_cons, List.not_mem_nil, or_false, not_or] at isCount
  rcases isCount with ⟨noAction, noDirection, noForward, noBackward, noElement⟩
  cases action with
  | buttons forward backward =>
      rw [DescribesAction, DescribesAction, alike.requires_iff (by decide) (Ne.symm noAction),
        alike.requires_iff (by decide) (Ne.symm noForward),
        alike.requires_iff (by decide) (Ne.symm noBackward)]
  | gesture axis container =>
      rw [DescribesAction, DescribesAction, alike.requires_iff (by decide) (Ne.symm noAction),
        alike.requires_iff (by decide) (Ne.symm noDirection),
        alike.requires_iff (by decide) (Ne.symm noElement)]

theorem AlikeBut.describesScroll_margin {scroll : Scroll}
    (alike : AlikeBut "SCROLL_MARGIN" members others) (describes : DescribesScroll scroll members)
    {margin : UInt32}
    (counted : DescribesCount others "SCROLL_MARGIN" Scroll.defaultMargin.toNat margin.toNat) :
    DescribesScroll { scroll with margin } others where
  names := (alike.named (by decide)).1 describes.names
  action := (alike.describesAction_iff (by decide)).1 describes.action
  margin := counted
  waitSeconds := (alike.describesCount_iff (by decide) (by decide)).1 describes.waitSeconds

theorem AlikeBut.describesScroll_waitSeconds {scroll : Scroll}
    (alike : AlikeBut "SCROLL_WAIT_TIME" members others)
    (describes : DescribesScroll scroll members) {waitSeconds : UInt64}
    (counted : DescribesCount others "SCROLL_WAIT_TIME" Scroll.defaultWaitSeconds.toNat
      waitSeconds.toNat) :
    DescribesScroll { scroll with waitSeconds } others where
  names := (alike.named (by decide)).1 describes.names
  action := (alike.describesAction_iff (by decide)).1 describes.action
  margin := (alike.describesCount_iff (by decide) (by decide)).1 describes.margin
  waitSeconds := counted

/-! ## Tasks with another count -/

theorem AlikeBut.describesTask_repeatCount (alike : AlikeBut "REPEAT_COUNT" members others)
    (describes : DescribesTask task members) {repeatCount : UInt32}
    (counted : DescribesCount others "REPEAT_COUNT" Task.defaultRepeatCount.toNat
      repeatCount.toNat) :
    DescribesTask { task with repeatCount } others where
  names := (alike.named (by decide)).1 describes.names
  name := (alike.requires_iff (by decide) (by decide)).1 describes.name
  named := describes.named
  kind := (alike.requires_iff (by decide) (by decide)).1 describes.kind
  payload := (alike.requires_iff (by decide) (by decide)).1 describes.payload
  scroll := (alike.holds_iff (by decide) (by decide)).1 describes.scroll
  repeatCount := counted

section

variable {config : Slot} (serves : config.Serves "SCROLL_CONFIG")

include serves

/-- The way to scroll of a task is described by the open object. -/
theorem exists_scroll_of_describesTask
    (describes : DescribesTask task (config.fill (.object members))) :
    ∃ scroll, task.action.scroll? = some scroll ∧ DescribesScroll scroll members := by
  have present : Json.object members ≠ .null := nofun
  rcases (serves.holds_iff present).1 describes.scroll with ⟨scroll, isScroll, isObject⟩
  exact ⟨scroll, isScroll, isObject_object_iff.1 isObject⟩

theorem describesTask_changeScroll
    (describes : DescribesTask task (config.fill (.object members))) {change : Scroll → Scroll}
    (changes : ∀ scroll, DescribesScroll scroll members → DescribesScroll (change scroll) others) :
    DescribesTask { task with action := task.action.changeScroll change }
      (config.fill (.object others)) := by
  have alike := AlikeBut.of_fill serves (by decide) (.object members) (.object others)
  rcases exists_scroll_of_describesTask serves describes with ⟨scroll, isScroll, isDescribed⟩
  have payload := (alike.requires_iff (by decide) (by decide)).1 describes.payload
  refine ⟨(alike.named (by decide)).1 describes.names,
    (alike.requires_iff (by decide) (by decide)).1 describes.name, describes.named, ?_, ?_, ?_,
    (alike.describesCount_iff (by decide) (by decide)).1 describes.repeatCount⟩
  · rw [Action.kind_changeScroll]
    exact (alike.requires_iff (by decide) (by decide)).1 describes.kind
  · rcases payload with ⟨value, gives, parts, isObject, described⟩
    refine ⟨value, gives, parts, isObject, described.names, ?_, ?_⟩
    · rw [Action.text?_changeScroll]
      exact described.text
    · rw [Action.element?_changeScroll]
      exact described.element
  · have present : Json.object others ≠ .null := nofun
    rw [Action.scroll?_changeScroll, isScroll, serves.holds_iff present]
    exact ⟨_, rfl, isObject_object_iff.2 (changes scroll isDescribed)⟩

end

/-! ## The object that holds a count -/

/-- The object of a task that holds a count: the task itself, or its way to scroll. -/
inductive Holder where
  | task
  | scroll (config : Slot)

namespace Holder

/-- The members of a task, given those of the object that holds the count. -/
def fill : Holder → Members → Members
  | .task, members => members
  | .scroll config, members => config.fill (.object members)

/-- The object is the one that a count is read from. -/
inductive Keeps : Holder → Count → Prop where
  | repeatCount : Keeps .task .repeatCount
  | margin {config : Slot} (serves : config.Serves "SCROLL_CONFIG") :
      Keeps (.scroll config) .margin
  | waitSeconds {config : Slot} (serves : config.Serves "SCROLL_CONFIG") :
      Keeps (.scroll config) .waitSeconds

variable {holder : Holder} {count : Count}

/-- A task has the count that its holder describes. -/
theorem Keeps.exists_count (keeps : holder.Keeps count)
    (describes : DescribesTask task (holder.fill members)) :
    ∃ number, count.of? task = some number ∧ number ≤ count.limit ∧
      DescribesCount members count.name count.fallback number := by
  cases keeps with
  | repeatCount =>
      exact ⟨_, rfl, Nat.le_pred_of_lt task.repeatCount.toNat_lt_size, describes.repeatCount⟩
  | margin serves =>
      rcases exists_scroll_of_describesTask serves describes with ⟨scroll, isScroll, described⟩
      exact ⟨scroll.margin.toNat, by simp [Count.of?, isScroll],
        Nat.le_pred_of_lt scroll.margin.toNat_lt_size, described.margin⟩
  | waitSeconds serves =>
      rcases exists_scroll_of_describesTask serves describes with ⟨scroll, isScroll, described⟩
      exact ⟨scroll.waitSeconds.toNat, by simp [Count.of?, isScroll],
        Nat.le_pred_of_lt scroll.waitSeconds.toNat_lt_size, described.waitSeconds⟩

/-- With another count in its holder, a task is described that has this count. -/
theorem Keeps.describesTask_put (keeps : holder.Keeps count)
    (describes : DescribesTask task (holder.fill members))
    (alike : AlikeBut count.name members others) (within : number ≤ count.limit)
    (counted : DescribesCount others count.name count.fallback number) :
    DescribesTask (count.put number task) (holder.fill others) := by
  cases keeps with
  | repeatCount =>
      rw [← Count.toNat_ofNat_uint32 within] at counted
      exact alike.describesTask_repeatCount describes counted
  | margin serves =>
      rw [← Count.toNat_ofNat_uint32 within] at counted
      exact describesTask_changeScroll serves describes fun scroll described =>
        alike.describesScroll_margin described counted
  | waitSeconds serves =>
      rw [← Count.toNat_ofNat_uint64 within] at counted
      exact describesTask_changeScroll serves describes fun scroll described =>
        alike.describesScroll_waitSeconds described counted

end Holder

/-! ## Documents with an open count -/

/-- A value that is neither null nor a natural number up to a limit. -/
inductive Unfit (limit : Nat) : Json → Prop where
  | bool (value : Bool) : Unfit limit (.bool value)
  | array (items : List Json) : Unfit limit (.array items)
  | object (members : Members) : Unfit limit (.object members)
  | negative (value : Int64) (below : value < 0) : Unfit limit (.number (.negative value below))
  | double (value : Float) : Unfit limit (.number (.double value))
  | natural {value : UInt64} (above : limit < value.toNat) :
      Unfit limit (.number (.natural value))
  | text {written : String}
      (foreign : ∀ number ≤ limit, ¬ Text.Denotes (Text.trim written) number) :
      Unfit limit (.text written)

/-- A document in which a count of a task is left open. -/
structure CountPlace where
  task : TaskPlace
  holder : Holder
  count : Count
  keeps : holder.Keeps count
  slot : Slot
  serves : slot.Serves count.name

namespace CountPlace

/-- The document with the members of the object that holds the count. -/
def around (place : CountPlace) (members : Members) : Json :=
  place.task.fill (place.holder.fill members)

/-- The document with a value of the count. -/
def fill (place : CountPlace) (value : Json) : Json :=
  place.around (place.slot.fill value)

/-- The document without the member for the count. -/
def omitted (place : CountPlace) : Json :=
  place.around place.slot.rest

/-- The count of a configuration that the document describes. -/
def get? (place : CountPlace) (config : Config) : Option Nat :=
  (place.task.task? config).bind place.count.of?

/-- The configuration with another count. -/
def put (place : CountPlace) (number : Nat) (config : Config) : Config :=
  place.task.change config (place.count.put number)

/-- The document is accepted with some value of the count, or without one. -/
def AcceptedAs (place : CountPlace) (config : Config) : Prop :=
  (∃ value, Config.ofJson (place.fill value) = .ok config) ∨
    Config.ofJson place.omitted = .ok config

/-- What becomes of a document that is otherwise accepted, for each value of its open count. -/
structure ReadsNumerals (place : CountPlace) (config : Config) : Prop where
  /-- Natural numbers up to the limit are accepted, however they are written. -/
  accepts : ∀ value ≠ .null, ∀ result, Config.ofJson (place.fill value) = .ok result ↔
    ∃ number ≤ place.count.limit, StandsFor value number ∧ result = place.put number config
  /-- The configuration has the number that is written. -/
  shows : ∀ number ≤ place.count.limit, place.get? (place.put number config) = some number
  /-- How a number is written makes no difference. -/
  agrees : ∀ number ≤ place.count.limit, ∀ value other, StandsFor value number →
    StandsFor other number → Config.ofJson (place.fill value) = Config.ofJson (place.fill other)
  /-- Everything else is refused. -/
  refuses : ∀ value, (∃ error, Config.ofJson (place.fill value) = .error error) ↔
    Unfit place.count.limit value
  /-- Of numbers those are accepted that are spelled as numerals up to the limit. -/
  spelled : ∀ word spelling number, Json.Spelling.ofWord? word = some spelling →
    Json.Number.ofSpelling? spelling = some number →
      ((∃ result, Config.ofJson (place.fill (.number number)) = .ok result) ↔
        ∃ natural ≤ place.count.limit, Text.Denotes (String.ofList word) natural)
  /-- A count that is null has its default. -/
  null : Config.ofJson (place.fill .null) = .ok (place.put place.count.fallback config)
  /-- A count that is absent has its default. -/
  absent : Lacks place.slot.rest place.count.name →
    Config.ofJson place.omitted = .ok (place.put place.count.fallback config)

variable {place : CountPlace} {config result : Config} {value : Json}

theorem alikeBut_fill (place : CountPlace) (value : Json) :
    AlikeBut place.count.name (place.slot.fill value) place.slot.rest :=
  .of_rest place.serves place.count.trim_name value

namespace AcceptedAs

theorem exists_members (accepted : place.AcceptedAs config) :
    ∃ members, AlikeBut place.count.name members place.slot.rest ∧
      Config.ofJson (place.around members) = .ok config := by
  rcases accepted with ⟨value, read⟩ | read
  · exact ⟨_, place.alikeBut_fill value, read⟩
  · exact ⟨_, .refl _ _, read⟩

/-- The document describes the configuration with the count that it is completed with. -/
theorem ofJson_around_iff (accepted : place.AcceptedAs config)
    (alike : AlikeBut place.count.name others place.slot.rest) :
    Config.ofJson (place.around others) = .ok result ↔
      ∃ number ≤ place.count.limit,
        DescribesCount others place.count.name place.count.fallback number ∧
          result = place.put number config := by
  rcases accepted.exists_members with ⟨members, alikeMembers, isConfig⟩
  rcases TaskPlace.ofJson_fill isConfig with ⟨task, -, described, changes⟩
  have counts : ∀ number ≤ place.count.limit,
      DescribesCount others place.count.name place.count.fallback number →
        Config.ofJson (place.around others) = .ok (place.put number config) := by
    intro number within counted
    apply changes
    exact place.keeps.describesTask_put described (alikeMembers.trans alike.symm) within counted
  constructor
  · intro read
    rcases TaskPlace.ofJson_fill read with ⟨other, -, otherDescribed, -⟩
    rcases place.keeps.exists_count otherDescribed with ⟨number, -, within, counted⟩
    rw [counts number within counted, Except.ok.injEq] at read
    exact ⟨number, within, counted, read.symm⟩
  · intro holds
    rcases holds with ⟨number, within, counted, rfl⟩
    exact counts number within counted

theorem get?_put (accepted : place.AcceptedAs config) (within : number ≤ place.count.limit) :
    place.get? (place.put number config) = some number := by
  rcases accepted.exists_members with ⟨members, -, isConfig⟩
  rcases TaskPlace.ofJson_fill isConfig with ⟨task, isTask, described, -⟩
  rcases place.keeps.exists_count described with ⟨old, isCount, -, -⟩
  rw [get?, put, TaskPlace.task?_change isTask, Option.bind_some]
  exact Count.of?_put (Option.isSome_of_eq_some isCount) within

end AcceptedAs

end CountPlace

/-! ## Values of a count -/

theorem describesCount_iff_of_lacks {name : String} {fallback : Nat}
    (lacks : Lacks members name) :
    DescribesCount members name fallback number ↔ number = fallback := by
  constructor
  · intro holds
    rcases holds with ⟨none | _, holds, rfl⟩
    · rfl
    · rcases holds with ⟨value, gives, -⟩
      exact (lacks value gives).elim
  · intro same
    exact ⟨none, lacks, same⟩

theorem Slot.Serves.describesCount_iff {slot : Slot} {name : String} {fallback : Nat}
    {value : Json} (serves : slot.Serves name) (present : value ≠ .null) :
    DescribesCount (slot.fill value) name fallback number ↔ StandsFor value number := by
  simp only [DescribesCount, serves.holds_iff present]
  constructor
  · intro holds
    rcases holds with ⟨_, ⟨_, rfl, stands⟩, rfl⟩
    exact stands
  · intro stands
    exact ⟨some number, ⟨number, rfl, stands⟩, rfl⟩

theorem StandsFor.ne_null {value : Json} (stands : StandsFor value number) : value ≠ .null := by
  rintro rfl
  cases stands

/-- What is unfit is neither null nor a number that is small enough. -/
theorem unfit_iff {limit : Nat} {value : Json} :
    Unfit limit value ↔ value ≠ .null ∧ ∀ number ≤ limit, ¬ StandsFor value number := by
  constructor
  · intro unfit
    cases unfit with
    | natural above =>
        refine ⟨nofun, fun number within stands => ?_⟩
        cases stands
        exact Nat.not_le.2 above within
    | text foreign =>
        refine ⟨nofun, fun number within stands => ?_⟩
        cases stands with
        | text denotes => exact foreign number within denotes
    | _ => exact ⟨nofun, fun _ _ => nofun⟩
  · intro holds
    rcases holds with ⟨present, unlike⟩
    cases value with
    | null => exact (present rfl).elim
    | bool value => exact .bool value
    | array items => exact .array items
    | object members => exact .object members
    | text written => exact .text fun number within denotes => unlike number within (.text denotes)
    | number value =>
        cases value with
        | negative value below => exact .negative value below
        | double value => exact .double value
        | natural value =>
            exact .natural (Nat.not_le.1 fun within => unlike _ within (.number value))

/-- A number stands for a natural number exactly when it is spelled as its numeral. -/
theorem standsFor_iff_of_spelled {word : List Char} {spelling : Json.Spelling}
    {spelled : Json.Number} (read : Json.Spelling.ofWord? word = some spelling)
    (held : Json.Number.ofSpelling? spelling = some spelled) (fits : number ≤ UInt64.size - 1) :
    StandsFor (.number spelled) number ↔ Text.Denotes (String.ofList word) number := by
  have same := Count.toNat_ofNat_uint64 fits
  rw [← same, ← Json.Number.held_natural_iff read, held, Option.some.injEq, same]
  constructor
  · intro stands
    cases stands with
    | number value => rw [UInt64.ofNat_toNat]
  · intro natural
    have stands := StandsFor.number (UInt64.ofNat number)
    rwa [← natural, same] at stands

namespace CountPlace.AcceptedAs

variable {place : CountPlace} {config result : Config} {value : Json}
  (accepted : place.AcceptedAs config)

include accepted

theorem ofJson_fill_iff (present : value ≠ .null) :
    Config.ofJson (place.fill value) = .ok result ↔
      ∃ number ≤ place.count.limit, StandsFor value number ∧ result = place.put number config := by
  rw [fill, accepted.ofJson_around_iff (place.alikeBut_fill value)]
  simp only [place.serves.describesCount_iff present]

theorem ofJson_of_standsFor (within : number ≤ place.count.limit)
    (stands : StandsFor value number) :
    Config.ofJson (place.fill value) = .ok (place.put number config) :=
  (accepted.ofJson_fill_iff stands.ne_null).2 ⟨number, within, stands, rfl⟩

theorem ofJson_of_lacks (alike : AlikeBut place.count.name others place.slot.rest)
    (lacks : Lacks others place.count.name) :
    Config.ofJson (place.around others) = .ok (place.put place.count.fallback config) :=
  (accepted.ofJson_around_iff alike).2
    ⟨_, place.count.fallback_le_limit, (describesCount_iff_of_lacks lacks).2 rfl, rfl⟩

theorem ofJson_null :
    Config.ofJson (place.fill .null) = .ok (place.put place.count.fallback config) :=
  accepted.ofJson_of_lacks (place.alikeBut_fill .null) place.serves.lacks_null

theorem refuses_iff (value : Json) :
    (∃ error, Config.ofJson (place.fill value) = .error error) ↔
      Unfit place.count.limit value := by
  rw [exists_eq_error_iff, unfit_iff]
  constructor
  · intro refused
    constructor
    · rintro rfl
      exact refused _ accepted.ofJson_null
    · intro number within stands
      exact refused _ (accepted.ofJson_of_standsFor within stands)
  · intro unfit result read
    rcases (accepted.ofJson_fill_iff unfit.1).1 read with ⟨number, within, stands, -⟩
    exact unfit.2 number within stands

theorem spelled_iff {word : List Char} {spelling : Json.Spelling} {spelled : Json.Number}
    (read : Json.Spelling.ofWord? word = some spelling)
    (held : Json.Number.ofSpelling? spelling = some spelled) :
    (∃ result, Config.ofJson (place.fill (.number spelled)) = .ok result) ↔
      ∃ natural ≤ place.count.limit, Text.Denotes (String.ofList word) natural := by
  have present : Json.number spelled ≠ .null := nofun
  have spells : ∀ natural ≤ place.count.limit,
      (StandsFor (.number spelled) natural ↔ Text.Denotes (String.ofList word) natural) :=
    fun _ within => standsFor_iff_of_spelled read held (Nat.le_trans within place.count.limit_le)
  constructor
  · intro holds
    rcases holds with ⟨result, isRead⟩
    rcases (accepted.ofJson_fill_iff present).1 isRead with ⟨natural, within, stands, -⟩
    exact ⟨natural, within, (spells natural within).1 stands⟩
  · intro holds
    rcases holds with ⟨natural, within, denotes⟩
    exact ⟨_, accepted.ofJson_of_standsFor within ((spells natural within).2 denotes)⟩

end CountPlace.AcceptedAs

namespace CountPlace

/-- Whatever is written for a count, the document is read with the number that it stands for,
and refused if it stands for none. -/
theorem readsNumerals {place : CountPlace} {config : Config} (accepted : place.AcceptedAs config) :
    place.ReadsNumerals config where
  accepts _ present _ := accepted.ofJson_fill_iff present
  shows _ within := accepted.get?_put within
  agrees number within value other stands otherStands := by
    rw [accepted.ofJson_of_standsFor within stands,
      accepted.ofJson_of_standsFor within otherStands]
  refuses := accepted.refuses_iff
  spelled _ _ _ := accepted.spelled_iff
  null := accepted.ofJson_null
  absent := accepted.ofJson_of_lacks (.refl _ _)

/-- A document with a task that scrolls by gestures, the margin of which is left open. -/
def ofGestureMargin : CountPlace where
  task :=
    { sections := ⟨[], "WORKFLOWS", []⟩
      serves := fun _ => readFrom_iff.2 rfl
      workflows := ⟨[], "find", []⟩
      earlier := []
      later := [] }
  holder := .scroll ⟨(scrollingTask []).dropLast, "SCROLL_CONFIG", []⟩
  count := .margin
  keeps := .margin fun _ => readFrom_iff.2 rfl
  slot := ⟨gestureScroll, "SCROLL_MARGIN", []⟩
  serves := fun _ => readFrom_iff.2 rfl

theorem readsNumerals_ofGestureMargin :
    ∃ config, Config.ofJson (ofGestureMargin.fill (.text " +012 ")) = .ok config ∧
      ofGestureMargin.get? config = some 12 ∧ ofGestureMargin.ReadsNumerals config := by
  have accepted : ∃ config, Config.ofJson (ofGestureMargin.fill (.text " +012 ")) = .ok config ∧
      ofGestureMargin.get? config = some 12 := ⟨_, rfl, rfl⟩
  rcases accepted with ⟨config, read, shown⟩
  exact ⟨config, read, shown, readsNumerals (.inl ⟨_, read⟩)⟩

end CountPlace

end Screenplay.Document
