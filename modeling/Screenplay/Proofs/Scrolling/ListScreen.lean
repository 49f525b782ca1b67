import Screenplay.Proofs.Script.Sequence
import Screenplay.Workflow.Search

/-!
# List screens

An engine shows a list screen if what it answers follows from an offset: the page of
the list at that offset is shown after some elements that stay, and swipes move the
page by one item.  Nothing else is asked of the states of the engine.

What a script does on a list screen is then told by offsets alone: with which result
and after which touches it takes the list from one offset to another.
-/

namespace Screenplay

/-! ## Touches -/

/-- What is done to an element on the screen. -/
inductive Touch where
  | click (element : Element)
  | hold (element : Element)
  | swipe (direction : Direction)

/-- What is done to an element in an event. -/
def Event.touch? : Event → Option Touch
  | .asked (.click element) _ => some (.click element)
  | .asked (.longClick element) _ => some (.hold element)
  | .asked (.scroll _ direction _) _ => some (.swipe direction)
  | _ => none

/-- The touches among events, in order. -/
def touches (events : List Event) : List Touch :=
  events.filterMap Event.touch?

@[simp] theorem touches_append (first second : List Event) :
    touches (first ++ second) = touches first ++ touches second :=
  List.filterMap_append

/-- The direction of a touch that is a swipe. -/
def Touch.direction? : Touch → Option Direction
  | .swipe direction => some direction
  | _ => none

/-- The swipes among events, in order. -/
def swipes (events : List Event) : List Direction :=
  (touches events).filterMap Touch.direction?

/-! ## Ways of a step -/

/-- The swipe of a step along an axis. -/
def Way.swipe (axis : Axis) : Way → Direction
  | .forward => axis.forward
  | .backward => axis.backward

/-- One of two values, by the way of a step. -/
def Way.choose {α : Type} (forward backward : α) : Way → α
  | .forward => forward
  | .backward => backward

namespace Search

theorem step_buttons (search : Search) (forward backward : Descriptor) (margin : UInt32)
    (waitSeconds : UInt64) (way : Way) (description : String) :
    search.step ⟨.buttons forward backward, margin, waitSeconds⟩ way description =
      Device.hierarchy >>= fun before =>
        search.button (way.choose forward backward) description >>= fun found =>
          if found.enabled then
            Script.perform (.click found) >>= fun _ =>
              observe ⟨.buttons forward backward, margin, waitSeconds⟩ before
          else pure false := by
  cases way <;> rfl

theorem step_gesture (search : Search) (axis : Axis) (container : Descriptor) (margin : UInt32)
    (waitSeconds : UInt64) (way : Way) (description : String) :
    search.step ⟨.gesture axis container, margin, waitSeconds⟩ way description =
      Device.hierarchy >>= fun before =>
        search.container container description >>= fun found =>
          Script.perform (.scroll found (way.swipe axis) margin) >>= fun _ =>
            observe ⟨.gesture axis container, margin, waitSeconds⟩ before := by
  cases way <;> rfl

end Search

/-! ## Screens -/

/-- An engine that shows a page of a list. -/
structure ListScreen {State : Type} (engine : Engine State) where
  items : List Element
  /-- How many items are shown at a time. -/
  pageSize : Nat
  /-- The number of items before the page. -/
  offset : State → Nat
  /-- The elements beside the list, when the page is at an offset. -/
  fixed : Nat → List Element
  /-- The elements inside an element, when the page is at an offset. -/
  inside : Nat → Element → List Element
  /-- The text that tells what is shown. -/
  text : Nat → String
  /-- The elements that move the page when they are swiped along an axis. -/
  moves : Axis → Element → Prop
  find_answer : ∀ selector root timeout state,
    (engine.answer (.find selector root timeout) state).1 =
      .ok ((root.elim (fixed (offset state) ++ (items.drop (offset state)).take pageSize)
        (inside (offset state))).find? selector.accepts)
  find_offset : ∀ selector root timeout state,
    offset (engine.answer (.find selector root timeout) state).2 = offset state
  dump_answer : ∀ state, (engine.answer .dump state).1 = .ok (text (offset state))
  dump_offset : ∀ state, offset (engine.answer .dump state).2 = offset state
  scroll_answer : ∀ element direction margin state,
    (engine.answer (.scroll element direction margin) state).1 = .ok ()
  scroll_forward : ∀ axis element margin state, moves axis element →
    offset (engine.answer (.scroll element axis.forward margin) state).2 =
      if offset state < items.length - pageSize then offset state + 1 else offset state
  scroll_backward : ∀ axis element margin state, moves axis element →
    offset (engine.answer (.scroll element axis.backward margin) state).2 = offset state - 1
  wait_offset : ∀ duration state, offset (engine.wait duration state) = offset state

namespace ListScreen

variable {State : Type} {engine : Engine State} (screen : ListScreen engine)

/-- The offset of the last page. -/
def last : Nat :=
  screen.items.length - screen.pageSize

/-- The page at an offset. -/
def page (offset : Nat) : List Element :=
  (screen.items.drop offset).take screen.pageSize

/-- What is shown at an offset, in order. -/
def shown (offset : Nat) : List Element :=
  screen.fixed offset ++ screen.page offset

/-- At an offset a descriptor means an element that moves the list, or one that does not
scroll but whose first scrollable part moves the list. -/
def ResolvesAt (axis : Axis) (container : Descriptor) (offset : Nat) : Prop :=
  ∃ found, (screen.shown offset).find? container.query.accepts = some found ∧
    ((found.scrollable = true ∧ screen.moves axis found) ∨
      (found.scrollable = false ∧ ∃ inner,
        (screen.inside offset found).find? (Selector.scrollable true).accepts = some inner ∧
          screen.moves axis inner))

/-- A descriptor means something to swipe on at every offset. -/
def Resolves (axis : Axis) (container : Descriptor) : Prop :=
  ∀ offset ≤ screen.last, screen.ResolvesAt axis container offset

/-- From a state a script ends with a result, after some touches, at an offset. -/
def Leads {α : Type} (script : Script α) (state : State) (result : α) (made : List Touch)
    (stop : Nat) : Prop :=
  ∃ after, script.run engine state = (.ok result, after) ∧
    touches (script.events engine state) = made ∧ screen.offset after = stop

/-- A script leads from one offset to another, whatever else there is to a state. -/
def Takes {α : Type} (script : Script α) (start : Nat) (result : α) (made : List Touch)
    (stop : Nat) : Prop :=
  ∀ state, screen.offset state = start → screen.Leads script state result made stop

variable {screen} {α β : Type}

theorem Leads.bind {script : Script α} {next : α → Script β} {state : State} {middle stop : Nat}
    {result : α} {final : β} {made later : List Touch}
    (first : screen.Leads script state result made middle)
    (rest : screen.Takes (next result) middle final later stop) :
    screen.Leads (script >>= next) state final (made ++ later) stop := by
  rcases first with ⟨between, ran, touched, there⟩
  rcases rest between there with ⟨after, ranRest, touchedRest, stopped⟩
  refine ⟨after, (Script.run_bind_of_ok ran next).trans ranRest, ?_, stopped⟩
  rw [Script.events_bind_of_ok ran, touches_append, touched, touchedRest]

namespace Takes

theorem pure (result : α) (offset : Nat) :
    screen.Takes (Pure.pure result) offset result [] offset :=
  fun state here => ⟨state, rfl, rfl, here⟩

theorem bind {script : Script α} {next : α → Script β} {start middle stop : Nat} {result : α}
    {final : β} {made later : List Touch} (first : screen.Takes script start result made middle)
    (rest : screen.Takes (next result) middle final later stop) :
    screen.Takes (script >>= next) start final (made ++ later) stop :=
  fun state here => (first state here).bind rest

/-- What touches nothing and leaves the list where it is may come first. -/
theorem after {script : Script α} {next : α → Script β} {start stop : Nat} {result : α}
    {final : β} {made : List Touch} (still : screen.Takes script start result [] start)
    (rest : screen.Takes (next result) start final made stop) :
    screen.Takes (script >>= next) start final made stop :=
  still.bind rest

theorem pause (duration : Duration) (offset : Nat) :
    screen.Takes (Script.pause duration) offset () [] offset := by
  intro state here
  refine ⟨_, rfl, rfl, ?_⟩
  rw [screen.wait_offset, here]

/-- A request does what its answers say. -/
theorem perform {request : Request} {answer : request.Answer} {start stop : Nat}
    {made : List Touch}
    (answers : ∀ state, screen.offset state = start →
      (engine.answer request state).1 = .ok answer ∧
        screen.offset (engine.answer request state).2 = stop)
    (touched : ∀ answer, touches [.asked request answer] = made) :
    screen.Takes (Script.perform request) start answer made stop := by
  intro state here
  rcases answers state here with ⟨answered, stopped⟩
  refine ⟨_, ?_, touched _, stopped⟩
  simp only [Script.perform, Script.run, answered]

theorem find (device : Device) (selector : Selector) (offset : Nat) :
    screen.Takes (device.find selector) offset
      ((screen.shown offset).find? selector.accepts) [] offset := by
  refine perform (fun state here => ?_) fun _ => rfl
  rw [screen.find_answer, screen.find_offset, here]
  exact ⟨rfl, rfl⟩

theorem findWithin (device : Device) (root : Element) (selector : Selector) (offset : Nat) :
    screen.Takes (device.findWithin root selector) offset
      ((screen.inside offset root).find? selector.accepts) [] offset := by
  refine perform (fun state here => ?_) fun _ => rfl
  rw [screen.find_answer, screen.find_offset, here]
  exact ⟨rfl, rfl⟩

theorem hierarchy (offset : Nat) :
    screen.Takes Device.hierarchy offset (screen.text offset) [] offset := by
  refine perform (fun state here => ?_) fun _ => rfl
  rw [screen.dump_answer, screen.dump_offset, here]
  exact ⟨rfl, rfl⟩

theorem observe (scroll : Scroll) (before : String) (offset : Nat) :
    screen.Takes (Search.observe scroll before) offset (before != screen.text offset) []
      offset :=
  (pause _ _).after ((hierarchy _).after (pure _ _))

end Takes

/-! ## Steps -/

variable (screen)

/-- The offset after a step. -/
def moved (offset : Nat) : Way → Nat
  | .forward => if offset < screen.last then offset + 1 else offset
  | .backward => offset - 1

/-- How far the page can be moved. -/
def room (offset : Nat) : Way → Nat
  | .forward => screen.last - offset
  | .backward => offset

/-- Whether what is shown differs after a step. -/
def looksMoved (offset : Nat) (way : Way) : Bool :=
  screen.text offset != screen.text (screen.moved offset way)

/-- Pages at different offsets look different. -/
def Telling : Prop :=
  ∀ offset ≤ screen.last, ∀ other ≤ screen.last,
    screen.text offset = screen.text other → offset = other

variable {screen} {axis : Axis} {container : Descriptor} {offset : Nat}

theorem moved_le_last (within : offset ≤ screen.last) (way : Way) :
    screen.moved offset way ≤ screen.last := by
  cases way with
  | forward =>
      rw [moved]
      split
      next before => exact before
      next => exact within
  | backward => exact Nat.le_trans (Nat.sub_le ..) within

theorem moved_eq_iff {way : Way} : screen.moved offset way = offset ↔ screen.room offset way = 0 := by
  cases way with
  | forward =>
      rw [moved, room]
      split <;> omega
  | backward =>
      rw [moved, room]
      omega

/-- A step changes what is shown if there is room for it. -/
theorem looksMoved_eq (telling : screen.Telling) (within : offset ≤ screen.last) (way : Way) :
    screen.looksMoved offset way = decide (0 < screen.room offset way) := by
  rw [Bool.eq_iff_iff, looksMoved, bne_iff_ne, decide_eq_true_eq, Nat.pos_iff_ne_zero, ne_eq,
    ne_eq, ← moved_eq_iff]
  refine not_congr ⟨fun same => ?_, fun same => by rw [same]⟩
  exact (telling _ within _ (moved_le_last within way) same).symm

/-- The container of a search is found, and swipes on it move the list. -/
theorem takes_container (resolves : screen.ResolvesAt axis container offset) (search : Search)
    (description : String) :
    ∃ found, screen.moves axis found ∧
      screen.Takes (search.container container description) offset found [] offset := by
  rcases resolves with ⟨found, isFound, direct | ⟨rigid, inner, isInner, moves⟩⟩
  · refine ⟨found, direct.2, (Takes.find _ _ _).after ?_⟩
    rw [isFound]
    simp only [direct.1, if_true]
    exact Takes.pure found offset
  · refine ⟨inner, moves, (Takes.find _ _ _).after ?_⟩
    rw [isFound]
    simp only [rigid]
    refine (Takes.findWithin _ _ _ _).after ?_
    rw [isInner]
    exact Takes.pure inner offset

/-- A swipe on an element that moves the list. -/
theorem takes_scroll {element : Element} (moves : screen.moves axis element) (way : Way)
    (margin : UInt32) (offset : Nat) :
    screen.Takes (Script.perform (.scroll element (way.swipe axis) margin)) offset ()
      [.swipe (way.swipe axis)] (screen.moved offset way) := by
  refine Takes.perform (fun state here => ⟨screen.scroll_answer .., ?_⟩) fun _ => rfl
  cases way with
  | forward =>
      rw [Way.swipe, screen.scroll_forward axis element margin state moves, here]
      rfl
  | backward =>
      rw [Way.swipe, screen.scroll_backward axis element margin state moves, here]
      rfl

/-- A step by a swipe moves the page if it can, and tells whether that is to be seen. -/
theorem takes_step_gesture (resolves : screen.ResolvesAt axis container offset)
    (search : Search) (margin : UInt32) (waitSeconds : UInt64) (way : Way)
    (description : String) :
    screen.Takes (search.step ⟨.gesture axis container, margin, waitSeconds⟩ way description)
      offset (screen.looksMoved offset way) [.swipe (way.swipe axis)]
      (screen.moved offset way) := by
  rcases takes_container resolves search description with ⟨found, moves, contained⟩
  rw [Search.step_gesture]
  exact (Takes.hierarchy offset).after (contained.after
    ((takes_scroll moves way margin offset).bind (Takes.observe _ _ _)))

end ListScreen

end Screenplay
