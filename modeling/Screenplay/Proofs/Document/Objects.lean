import Mathlib.Logic.Relation
import Screenplay.Proofs.Document.Grammar

/-!
# The objects of a document

The format fixes the member names of five sorts of objects: of the document itself, of
elements, of tasks, of their payloads and of ways to scroll.  Such objects stand inside
one another, each as the value of a property or in a section.

Not every object that stands in a document is read.  A member is passed over if its
property is read from another member, whose name is the same but for padding.  And a
way to scroll may have members for both of its actions, of which it needs only those of
the action that it names.

In an accepted document an object with an unknown member name is therefore not one that
is read: it stands in a member that is passed over, or below one.
-/

namespace Screenplay.Document

/-- What an object of a document says. -/
inductive Role where
  | document
  | element
  | task
  | payload
  | scroll
  deriving DecidableEq

/-- The names that the members of an object may have. -/
def Role.names : Role → List String
  | .document => Section.all.map Section.name
  | .element => descriptorNames
  | .task => taskNames
  | .payload => payloadNames
  | .scroll => scrollNames

/-- An object together with what it says. -/
structure Object where
  role : Role
  members : Members

/-- The names of an object are all known. -/
def Object.Known (object : Object) : Prop :=
  NamedAmong object.role.names object.members

/-- The object is of the form that its role demands. -/
def Object.WellFormed : Object → Prop
  | ⟨.document, members⟩ => IsConfig members
  | ⟨.element, members⟩ => IsElement members
  | ⟨.task, members⟩ => IsTask members
  | ⟨.payload, members⟩ => ∃ kind, IsPayload kind members
  | ⟨.scroll, members⟩ => IsScroll members

theorem Object.WellFormed.known {object : Object} (wellFormed : object.WellFormed) :
    object.Known := by
  rcases object with ⟨role, members⟩
  cases role with
  | document => exact IsConfig.names wellFormed
  | element => exact IsElement.names wellFormed
  | task => exact IsTask.names wellFormed
  | payload =>
      rcases wellFormed with ⟨_, payload⟩
      exact payload.names
  | scroll => exact IsScroll.names wellFormed

/-! ## Objects inside objects -/

/-- The names of the elements that a way to scroll may have. -/
def stepNames : List String := ["SCROLL_FORWARD", "SCROLL_BACKWARD", "SCROLL_ELEMENT"]

/-- An object stands right inside another one.  From a name `sees` tells the values that
count as values of the property with that name. -/
inductive Inside (sees : Members → String → Json → Prop) : Object → Object → Prop where
  | namedElement {members entries element : Members} {name : String}
      (seen : sees members "UI_ELEMENTS" (.object entries))
      (entry : (name, .object element) ∈ entries) :
      Inside sees ⟨.document, members⟩ ⟨.element, element⟩
  | task {members entries task : Members} {name : String} {items : List Json}
      (seen : sees members "WORKFLOWS" (.object entries))
      (entry : (name, .array items) ∈ entries) (item : .object task ∈ items) :
      Inside sees ⟨.document, members⟩ ⟨.task, task⟩
  | payload {members payload : Members} (seen : sees members "CONFIG" (.object payload)) :
      Inside sees ⟨.task, members⟩ ⟨.payload, payload⟩
  | scroll {members scroll : Members} (seen : sees members "SCROLL_CONFIG" (.object scroll)) :
      Inside sees ⟨.task, members⟩ ⟨.scroll, scroll⟩
  | target {members element : Members} (seen : sees members "UI_ELEMENT" (.object element)) :
      Inside sees ⟨.payload, members⟩ ⟨.element, element⟩
  | stepElement {members element : Members} {name : String} (named : name ∈ stepNames)
      (seen : sees members name (.object element)) :
      Inside sees ⟨.scroll, members⟩ ⟨.element, element⟩

theorem trim_of_mem_stepNames : ∀ name ∈ stepNames, Text.trim name = name := by
  decide

/-- The names of properties have no padding, and objects are not null. -/
theorem Inside.mono {sees widerSees : Members → String → Json → Prop} {outer inner : Object}
    (wider : ∀ members name value, Text.trim name = name → value ≠ .null →
      sees members name value → widerSees members name value)
    (inside : Inside sees outer inner) : Inside widerSees outer inner := by
  cases inside with
  | namedElement seen entry => exact .namedElement (wider _ _ _ (by decide) nofun seen) entry
  | task seen entry item => exact .task (wider _ _ _ (by decide) nofun seen) entry item
  | payload seen => exact .payload (wider _ _ _ (by decide) nofun seen)
  | scroll seen => exact .scroll (wider _ _ _ (by decide) nofun seen)
  | target seen => exact .target (wider _ _ _ (by decide) nofun seen)
  | stepElement named seen =>
      exact .stepElement named (wider _ _ _ (trim_of_mem_stepNames _ named) nofun seen)

/-- Where either of two things is seen, an object stands inside another one by the first
or by the second. -/
theorem Inside.or {sees passes : Members → String → Json → Prop} {outer inner : Object}
    (inside : Inside (fun members name value =>
      sees members name value ∨ passes members name value) outer inner) :
    Inside sees outer inner ∨ Inside passes outer inner := by
  cases inside with
  | namedElement seen entry => exact seen.imp (.namedElement · entry) (.namedElement · entry)
  | task seen entry item => exact seen.imp (.task · entry item) (.task · entry item)
  | payload seen => exact seen.imp .payload .payload
  | scroll seen => exact seen.imp .scroll .scroll
  | target seen => exact seen.imp .target .target
  | stepElement named seen => exact seen.imp (.stepElement named) (.stepElement named)

/-- An object stands somewhere inside a document, which is an object itself. -/
def Object.StandsIn (sees : Members → String → Json → Prop) (document : Json)
    (object : Object) : Prop :=
  ∃ members, document = .object members ∧
    Relation.ReflTransGen (Inside sees) ⟨.document, members⟩ object

/-! ## What is read -/

/-- A member has the name of a property, but for padding. -/
def Has (members : Members) (name : String) (value : Json) : Prop :=
  ∃ written, (written, value) ∈ members ∧ Text.trim written = name

/-- A way to scroll needs the element with some name. -/
inductive NeedsStep (members : Members) : String → Prop where
  | forward (action : Requires members "SCROLL_ACTION" (Spells "USE_BUTTON")) :
      NeedsStep members "SCROLL_FORWARD"
  | backward (action : Requires members "SCROLL_ACTION" (Spells "USE_BUTTON")) :
      NeedsStep members "SCROLL_BACKWARD"
  | element (action : Requires members "SCROLL_ACTION" (Spells "USE_GESTURE")) :
      NeedsStep members "SCROLL_ELEMENT"

/-- A property is read as a value. -/
def Reads (members : Members) (name : String) (value : Json) : Prop :=
  Gives members name value ∧ (name ∈ stepNames → NeedsStep members name)

/-- A value of a member that is passed over, although the member is called like a
property. -/
inductive PassesOver (members : Members) (name : String) (value : Json) : Prop where
  | shadowed (other : Json) (has : Has members name value) (read : ReadFrom members name other)
      (differs : other ≠ value)
  | idle (has : Has members name value) (isStep : name ∈ stepNames)
      (unneeded : ¬ NeedsStep members name)

/-- An object of a document that is read. -/
def Object.IsReadIn (document : Json) (object : Object) : Prop :=
  object.StandsIn Reads document

/-- An object of a document that stands in a member that is passed over, or below one. -/
def Object.IsPassedOverIn (document : Json) (object : Object) : Prop :=
  ∃ outer inner : Object, outer.IsReadIn document ∧ Inside PassesOver outer inner ∧
    Relation.ReflTransGen (Inside Has) inner object

/-- Some member is read wherever there is one with a fitting name. -/
theorem Has.exists_readFrom {members : Members} {name : String} {value : Json}
    (has : Has members name value) : ∃ other, ReadFrom members name other := by
  rcases has with ⟨written, member, padding⟩
  simp only [readFrom_iff]
  cases unpadded : members.lookup name with
  | some other => exact ⟨other, rfl⟩
  | none =>
      have found : (members.find? fun member => Text.trim member.1 == name).isSome :=
        List.find?_isSome.2 ⟨_, member, by simpa using padding⟩
      rcases Option.isSome_iff_exists.1 found with ⟨⟨other, otherValue⟩, isFound⟩
      exact ⟨otherValue, by simp [isFound]⟩

/-- What a property is read from is a member with its name. -/
theorem Reads.has {members : Members} {name : String} {value : Json} (plain : Text.trim name = name)
    (reads : Reads members name value) : Has members name value := by
  rcases reads.1.1 with ⟨before, after, rfl, -⟩ | ⟨written, before, after, rfl, padding, -⟩
  · exact ⟨name, by simp, plain⟩
  · exact ⟨written, by simp, padding⟩

/-- A member is read unless it is passed over. -/
theorem Has.reads_or_passesOver {members : Members} {name : String} {value : Json}
    (has : Has members name value) (present : value ≠ .null) :
    Reads members name value ∨ PassesOver members name value := by
  rcases has.exists_readFrom with ⟨other, read⟩
  by_cases same : other = value
  · subst same
    by_cases needed : name ∈ stepNames → NeedsStep members name
    · exact .inl ⟨⟨read, present⟩, needed⟩
    · rw [Classical.not_imp] at needed
      exact .inr (.idle has needed.1 needed.2)
  · exact .inr (.shadowed other has read same)

theorem Object.IsReadIn.standsIn {document : Json} {object : Object}
    (isRead : object.IsReadIn document) : object.StandsIn Has document := by
  rcases isRead with ⟨members, isObject, path⟩
  refine ⟨members, isObject, Relation.ReflTransGen.mono (fun _ _ inside => ?_) _ _ path⟩
  exact inside.mono fun _ _ _ plain _ reads => reads.has plain

/-- An object that stands in a document is read, or else it is passed over. -/
theorem Object.StandsIn.isReadIn_or_isPassedOverIn {document : Json} {object : Object}
    (stands : object.StandsIn Has document) :
    object.IsReadIn document ∨ object.IsPassedOverIn document := by
  rcases stands with ⟨members, isObject, path⟩
  induction path with
  | refl => exact .inl ⟨members, isObject, .refl⟩
  | @tail outer inner _ inside ih =>
      rcases ih with ⟨_, sameObject, read⟩ | ⟨first, passed, isRead, atPassed, below⟩
      · have splits : Inside (fun members name value =>
            Reads members name value ∨ PassesOver members name value) outer inner :=
          inside.mono fun _ _ _ _ present has => has.reads_or_passesOver present
        rcases splits.or with reads | passes
        · exact .inl ⟨_, sameObject, read.tail reads⟩
        · exact .inr ⟨outer, inner, ⟨_, sameObject, read⟩, passes, .refl⟩
      · exact .inr ⟨first, passed, isRead, atPassed, below.tail inside⟩

/-! ## What is read is well formed -/

variable {members : Members} {name : String} {form : Json → Prop} {shape : Members → Prop}

/-- A property that may be absent has its form when it is read. -/
theorem Permits.formed {value : Json} (permits : Permits members name form)
    (gives : Gives members name value) : form value := by
  rcases permits with lacks | ⟨other, givesOther, isFormed⟩
  · exact (lacks value gives).elim
  · rw [gives.unique givesOther]
    exact isFormed

theorem Requires.formed {value : Json} (requires : Requires members name form)
    (gives : Gives members name value) : form value :=
  Permits.formed (.inr requires) gives

theorem RequiresWhen.formed {needed : Bool} {value : Json}
    (requires : RequiresWhen needed members name form) (gives : Gives members name value) :
    form value := by
  cases needed with
  | true => exact Permits.formed (.inr requires) gives
  | false => exact Permits.formed (.inl requires) gives

theorem IsObject.shaped (isObject : IsObject shape (.object members)) : shape members := by
  rcases isObject with ⟨_, same, isShaped⟩
  cases same
  exact isShaped

/-- The elements that a way to scroll needs are well formed. -/
theorem IsAction.stepElement {element : Members} (action : IsAction members)
    (needs : NeedsStep members name) (gives : Gives members name (.object element)) :
    IsElement element := by
  -- A way to scroll names one action only.
  have onlyOne : ∀ {left right : String}, left ≠ right →
      Requires members "SCROLL_ACTION" (Spells left) →
        ¬ Requires members "SCROLL_ACTION" (Spells right) := by
    intro left right differ first second
    rcases first with ⟨_, gives, _, isLeft, spellsLeft⟩
    rcases second.formed gives with ⟨_, isRight, spellsRight⟩
    rw [isLeft] at isRight
    cases isRight
    exact differ (spellsLeft.symm.trans spellsRight)
  have isGesture : "USE_BUTTON" ≠ "USE_GESTURE" := by decide
  rcases action with ⟨buttons, forward, backward⟩ | ⟨gesture, -, container⟩
  · cases needs with
    | forward => exact (forward.formed gives).shaped
    | backward => exact (backward.formed gives).shaped
    | element gesture => exact (onlyOne isGesture buttons gesture).elim
  · cases needs with
    | forward buttons => exact (onlyOne isGesture buttons gesture).elim
    | backward buttons => exact (onlyOne isGesture buttons gesture).elim
    | element => exact (container.formed gives).shaped

/-- What is read inside a well-formed object is well formed. -/
theorem Object.WellFormed.inside {outer inner : Object} (wellFormed : outer.WellFormed)
    (reads : Inside Reads outer inner) : inner.WellFormed := by
  cases reads with
  | namedElement seen entry =>
      have elements := (IsConfig.elements wellFormed).formed seen.1
      exact (elements.shaped.formed _ entry).shaped
  | task seen entry item =>
      have workflows := (IsConfig.workflows wellFormed).formed seen.1
      rcases workflows.shaped.formed _ entry with ⟨_, same, tasks⟩
      cases same
      exact (tasks _ item).shaped
  | payload seen =>
      rcases IsTask.parts wellFormed with ⟨kind, -, payload, -⟩
      exact ⟨kind, (payload.formed seen.1).shaped⟩
  | scroll seen =>
      rcases IsTask.parts wellFormed with ⟨kind, -, -, scroll⟩
      exact (scroll.formed seen.1).shaped
  | target seen =>
      rcases wellFormed with ⟨kind, payload⟩
      exact (payload.element.formed seen.1).shaped
  | stepElement named seen =>
      exact (IsScroll.action wellFormed).stepElement (seen.2 named) seen.1

/-- Every object of an accepted document that is read is well formed. -/
theorem Object.IsReadIn.wellFormed {document : Json} {object : Object}
    (isRead : object.IsReadIn document) (accepted : ∃ config, Config.ofJson document = .ok config) :
    object.WellFormed := by
  rcases isRead with ⟨members, rfl, path⟩
  induction path with
  | refl => exact ((ofJson_accepts_iff _).1 accepted).shaped
  | tail _ reads ih => exact ih.inside reads

/-- A document is refused if one of its objects has an unknown member name, unless the
object is not read, since it stands in a member that is passed over. -/
theorem ofJson_refuses_unknown_names {document : Json} {object : Object}
    (stands : object.StandsIn Has document) (unknown : ¬ object.Known) :
    (∃ error, Config.ofJson document = .error error) ∨
      (¬ object.IsReadIn document ∧ object.IsPassedOverIn document) := by
  by_cases isRead : object.IsReadIn document
  · left
    cases read : Config.ofJson document with
    | error error => exact ⟨error, rfl⟩
    | ok config => exact (unknown (isRead.wellFormed ⟨config, read⟩).known).elim
  · right
    exact ⟨isRead, stands.isReadIn_or_isPassedOverIn.resolve_left isRead⟩

/-- A task that scrolls in some way. -/
def scrollingTask (scroll : Members) : Members :=
  [("NAME", .text "row"), ("TYPE", .text "SCROLL_TO_FIND_AND_CLICK"),
    ("CONFIG", .object [("UI_ELEMENT", .object
      [("TYPE", .text "TEXT_CONTAINS"), ("VALUE", .text "Row 7")])]),
    ("SCROLL_CONFIG", .object scroll)]

/-- A document with a single task, which scrolls in some way. -/
def scrollingDocument (scroll : Members) : Json :=
  .object [("WORKFLOWS", .object [("find", .array [.object (scrollingTask scroll)])])]

/-- The members of a button, one of which is unknown. -/
def numberedButton : Members :=
  [("TYPE", .text "CLASS"), ("VALUE", .text "Button"), ("INDEX", .text "1")]

/-- A way to scroll with the numbered button. -/
def buttonScroll : Members :=
  [("SCROLL_ACTION", .text "USE_BUTTON"), ("SCROLL_FORWARD", .object numberedButton),
    ("SCROLL_BACKWARD", .object [("TYPE", .text "CLASS"), ("VALUE", .text "Button")])]

/-- A way to scroll by gestures, which has no use for the numbered button. -/
def gestureScroll : Members :=
  [("SCROLL_ACTION", .text "USE_GESTURE"), ("SCROLL_DIRECTION", .text "VERTICAL"),
    ("SCROLL_ELEMENT", .object [("TYPE", .text "CLASS"), ("VALUE", .text "ListView")]),
    ("SCROLL_FORWARD", .object numberedButton)]

theorem isReadIn_scrollingDocument (scroll : Members) :
    Object.IsReadIn (scrollingDocument scroll) ⟨.scroll, scroll⟩ := by
  have reads : ∀ {members name value}, property? members name = some value →
      name ∉ stepNames → Reads members name value :=
    fun read notStep => ⟨property?_eq_some_iff.1 read, fun isStep => (notStep isStep).elim⟩
  have config : Reads (scrollingTask scroll) "SCROLL_CONFIG" (.object scroll) :=
    reads rfl (by decide)
  exact ⟨_, rfl, .tail (.single (.task (reads rfl (by decide)) (List.mem_singleton.2 rfl)
    (List.mem_singleton.2 rfl))) (.scroll config)⟩

theorem not_known_numberedButton : ¬ Object.Known ⟨.element, numberedButton⟩ := by
  intro known
  have index := known ("INDEX", .text "1") (by simp [numberedButton])
  revert index
  decide

/-- A button that is needed may not have an unknown member. -/
theorem ofJson_refuses_unknown_names_button :
    Object.StandsIn Has (scrollingDocument buttonScroll) ⟨.element, numberedButton⟩ ∧
      ¬ Object.Known ⟨.element, numberedButton⟩ ∧
      ∃ error, Config.ofJson (scrollingDocument buttonScroll) = .error error := by
  have reads : Reads buttonScroll "SCROLL_FORWARD" (.object numberedButton) :=
    ⟨property?_eq_some_iff.1 rfl, fun _ => .forward
      ⟨_, property?_eq_some_iff.1 rfl, _, rfl, by decide⟩⟩
  rcases isReadIn_scrollingDocument buttonScroll with ⟨members, isObject, path⟩
  have isRead : Object.IsReadIn (scrollingDocument buttonScroll) ⟨.element, numberedButton⟩ :=
    ⟨members, isObject, path.tail (.stepElement (by decide) reads)⟩
  refine ⟨isRead.standsIn, not_known_numberedButton, ?_⟩
  have refused := ofJson_refuses_unknown_names isRead.standsIn not_known_numberedButton
  exact refused.resolve_right fun passedOver => passedOver.1 isRead

/-- A document may have an unknown member name in an element that its way to scroll does
not need, and be accepted. -/
theorem unknown_name_of_idle_button_accepted :
    ∃ object : Object, object.StandsIn Has (scrollingDocument gestureScroll) ∧
      ¬ object.Known ∧
      ∃ config, Config.ofJson (scrollingDocument gestureScroll) = .ok config := by
  rcases (isReadIn_scrollingDocument gestureScroll).standsIn with ⟨members, isObject, path⟩
  have has : Has gestureScroll "SCROLL_FORWARD" (.object numberedButton) :=
    ⟨"SCROLL_FORWARD", by simp [gestureScroll], by decide⟩
  exact ⟨_, ⟨members, isObject, path.tail (.stepElement (by decide) has)⟩,
    not_known_numberedButton, _, rfl⟩

end Screenplay.Document
