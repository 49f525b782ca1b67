import Screenplay.Proofs.Scrolling.Agreement
import Screenplay.Proofs.Scrolling.ListDevice
import Screenplay.Proofs.Scrolling.ListScreen

/-!
# Buttons and swipes

A list device shows a list screen.  If its clicks work, a step by a button and a step by a
swipe move the page alike and report the same: that what is shown differs, which it does not
where the page cannot be moved.  There the button is disabled, and is neither clicked nor
waited for.  All searches and rewindings therefore come to the same by buttons as by swipes.
-/

namespace Screenplay

/-- Scripts that come to the same from every offset of a list screen agree, whatever they
touch. -/
theorem ListScreen.agree_of_takes {State α : Type} {engine : Engine State}
    (screen : ListScreen engine) {left right : Script α}
    (same : ∀ offset, ∃ result made otherMade stop,
      screen.Takes left offset result made stop ∧
        screen.Takes right offset result otherMade stop) :
    Agree engine (fun state other => screen.offset state = screen.offset other) left right := by
  intro state other alike
  obtain ⟨result, made, otherMade, stop, takes, otherTakes⟩ := same (screen.offset state)
  obtain ⟨after, ran, -, there⟩ := takes state rfl
  obtain ⟨otherAfter, otherRan, -, otherThere⟩ := otherTakes other alike.symm
  exact ⟨result, after, otherAfter, ran, otherRan, there.trans otherThere.symm⟩

namespace ListDevice

variable {device : ListDevice} {offset : Nat} {way : Way} {moment : Moment}
  {forward backward container : Descriptor}

/-! ## The list screen -/

theorem moved_forward (device : ListDevice) (offset : Nat) :
    device.moved offset .forward =
      if offset < device.items.length - device.pageSize then offset + 1 else offset := by
  simp only [moved, canMove, decide_eq_true_eq, Nat.lt_sub_iff_add_lt]

theorem moved_backward (device : ListDevice) (offset : Nat) :
    device.moved offset .backward = offset - 1 := by
  cases offset <;> rfl

/-- The list screen that a list device shows.  A swipe moves the page wherever it is made. -/
def listScreen (device : ListDevice) : ListScreen device.engine where
  items := device.items
  pageSize := device.pageSize
  offset := Moment.offset
  fixed offset := device.list :: (device.innerList ++
    [device.button offset .forward, device.button offset .backward] ++ device.fixed)
  inside := device.inside
  text := device.text
  moves _ _ := True
  find_answer _ _ _ _ := congrArg Except.ok List.head?_filter
  find_offset _ _ _ _ := rfl
  dump_answer _ := rfl
  dump_offset _ := rfl
  scroll_answer _ _ _ _ := rfl
  scroll_forward axis _ _ moment _ := by
    cases axis <;> exact device.moved_forward moment.offset
  scroll_backward axis _ _ moment _ := by
    cases axis <;> exact device.moved_backward moment.offset
  wait_offset _ _ := rfl

theorem listScreen_moved (device : ListDevice) (offset : Nat) (way : Way) :
    device.listScreen.moved offset way = device.moved offset way := by
  cases way with
  | forward => exact (device.moved_forward offset).symm
  | backward => exact (device.moved_backward offset).symm

/-- The page can be moved where there is room. -/
theorem canMove_eq (device : ListDevice) (offset : Nat) (way : Way) :
    device.canMove offset way = decide (0 < device.listScreen.room offset way) := by
  cases way with
  | forward => exact decide_eq_decide.2 (Nat.sub_pos_iff_lt.trans Nat.lt_sub_iff_add_lt).symm
  | backward => rfl

/-- Where the page cannot be moved, it stays. -/
theorem listScreen_moved_of_canMove_eq_false (stays : device.canMove offset way = false) :
    device.listScreen.moved offset way = offset := by
  rw [listScreen_moved]
  simp [moved, stays]

/-! ## Steps by buttons -/

/-- A descriptor means a button, whatever page is shown. -/
def MeansButton (device : ListDevice) (way : Way) (descriptor : Descriptor) : Prop :=
  ∀ offset, (device.visible offset).find? descriptor.query.accepts =
    some (device.button offset way)

/-- Two descriptors mean the two buttons of the device. -/
def OwnButtons (device : ListDevice) (forward backward : Descriptor) : Prop :=
  ∀ way, device.MeansButton way (way.choose forward backward)

/-- A button is found by a look that changes nothing. -/
theorem run_button {descriptor : Descriptor} (means : device.MeansButton way descriptor)
    (search : Search) (description : String) (moment : Moment) :
    (search.button descriptor description).run device.engine moment =
        (.ok (device.button moment.offset way), moment) ∧
      (search.button descriptor description).events device.engine moment =
        [.asked (.find descriptor.query none (some search.device.findTimeout))
          (.ok (some (device.button moment.offset way)))] := by
  have looked : (search.device.find descriptor.query).run device.engine moment =
      (.ok (some (device.button moment.offset way)), moment) := by
    rw [← means moment.offset, ← List.head?_filter]
    rfl
  have answered : (device.engine.answer
      (.find descriptor.query none (some search.device.findTimeout)) moment).1 =
        .ok (some (device.button moment.offset way)) := congrArg Prod.fst looked
  refine ⟨Script.run_bind_of_ok looked _, ?_⟩
  rw [Search.button, Script.events_bind_of_ok looked, ← answered]
  rfl

theorem takes_button {descriptor : Descriptor} (means : device.MeansButton way descriptor)
    (search : Search) (description : String) (offset : Nat) :
    device.listScreen.Takes (search.button descriptor description) offset
      (device.button offset way) [] offset := by
  rintro moment rfl
  obtain ⟨ran, happened⟩ := run_button means search description moment
  exact ⟨moment, ran, congrArg touches happened, rfl⟩

/-- A click on a button moves the page, if clicks work. -/
theorem takes_click (working : device.failingClick = none) (offset : Nat) (way : Way) :
    device.listScreen.Takes (Script.perform (.click (device.button offset way))) offset ()
      [.click (device.button offset way)] (device.listScreen.moved offset way) := by
  refine ListScreen.Takes.perform (fun moment here => ?_) fun _ => rfl
  have clicked : device.engine.answer (.click (device.button offset way)) moment =
      (.ok (), device.move { moment with clicks := moment.clicks + 1 } way) := by
    change device.click moment (buttonHandle way) = _
    rw [click, working]
    cases way <;> rfl
  rw [clicked, listScreen_moved, ← here]
  exact ⟨rfl, rfl⟩

/-- What a step touches. -/
def stepTouches (device : ListDevice) (offset : Nat) (way : Way) : ScrollAction → List Touch
  | .buttons _ _ =>
      if device.canMove offset way then [.click (device.button offset way)] else []
  | .gesture axis _ => [.swipe (way.swipe axis)]

/-- A step by a button moves the page if it can, and tells whether that is to be seen. -/
theorem takes_step_buttons (working : device.failingClick = none)
    (own : device.OwnButtons forward backward) (search : Search) (margin : UInt32)
    (waitSeconds : UInt64) (way : Way) (description : String) (offset : Nat) :
    device.listScreen.Takes
      (search.step ⟨.buttons forward backward, margin, waitSeconds⟩ way description) offset
      (device.listScreen.looksMoved offset way)
      (device.stepTouches offset way (.buttons forward backward))
      (device.listScreen.moved offset way) := by
  rw [Search.step_buttons]
  refine (ListScreen.Takes.hierarchy offset).after
    ((takes_button (own way) search description offset).after ?_)
  cases moves : device.canMove offset way with
  | true =>
      have enabled : (device.button offset way).enabled = true := moves
      rw [if_pos enabled, stepTouches, if_pos moves]
      exact (takes_click working offset way).bind (ListScreen.Takes.observe _ _ _)
  | false =>
      have disabled : ¬(device.button offset way).enabled = true := by
        simp [button, moves]
      rw [if_neg disabled, stepTouches, moves, ListScreen.looksMoved,
        listScreen_moved_of_canMove_eq_false moves, bne_self_eq_false]
      exact ListScreen.Takes.pure false offset

/-- A button that is disabled is looked at, and that is all. -/
theorem events_step_of_disabled (own : device.OwnButtons forward backward) (search : Search)
    (margin : UInt32) (waitSeconds : UInt64) (description : String)
    (stays : device.canMove moment.offset way = false) :
    (search.step ⟨.buttons forward backward, margin, waitSeconds⟩ way description).events
        device.engine moment =
      [.asked .dump (.ok (device.text moment.offset)),
        .asked (.find (way.choose forward backward).query none (some search.device.findTimeout))
          (.ok (some (device.button moment.offset way)))] := by
  have disabled : ¬(device.button moment.offset way).enabled = true := by
    simp [button, stays]
  have dumped : Device.hierarchy.run device.engine moment =
      (.ok (device.text moment.offset), moment) := rfl
  obtain ⟨found, looked⟩ := run_button (own way) search description moment
  rw [Search.step_buttons, Script.events_bind_of_ok dumped, Script.events_bind_of_ok found,
    looked, if_neg disabled]
  rfl

/-- The two buttons are meant by what they say about themselves. -/
theorem ownButtons_of_description (device : ListDevice) {down up : Pattern}
    (meantForward : forward.query = .description down)
    (meantBackward : backward.query = .description up)
    (isDown : down.isMatch (buttonDescription .forward) = true)
    (isUp : up.isMatch (buttonDescription .backward) = true)
    (notDown : up.isMatch (buttonDescription .forward) = false) :
    device.OwnButtons forward backward := by
  intro way offset
  have silent : device.list.description = none := rfl
  have inside (pattern : Pattern) :
      device.innerList.find? (Selector.description pattern).accepts = none := by
    rw [innerList]
    split <;> rfl
  cases way with
  | forward =>
      rw [Way.choose, meantForward]
      simp [visible, Selector.accepts, silent, inside, button, isDown]
  | backward =>
      rw [Way.choose, meantBackward]
      simp [visible, Selector.accepts, silent, inside, button, isUp, notDown]

/-! ## Steps by swipes -/

/-- A descriptor means the list, or the element inside it that can be scrolled. -/
def MeansList (device : ListDevice) (descriptor : Descriptor) : Prop :=
  ∀ offset, ∃ found, (device.visible offset).find? descriptor.query.accepts = some found ∧
    (found = device.list ∨ found = inner)

/-- The list is meant by the name of its resource. -/
theorem meansList_of_resource (device : ListDevice)
    (meant : container.query = .resource appPackage "recycler_view") :
    device.MeansList container := by
  intro offset
  have isMeant : (Selector.resource appPackage "recycler_view").accepts device.list = true := by
    simp [Selector.accepts, list, Element.withResource]
  exact ⟨device.list, by rw [meant, visible, List.find?_cons_of_pos isMeant], .inl rfl⟩

/-- At an offset a descriptor means something that can be scrolled, or that has something
inside that can be. -/
def ShowsContainer (device : ListDevice) (container : Descriptor) (offset : Nat) : Prop :=
  ∃ found, (device.visible offset).find? container.query.accepts = some found ∧
    (found.scrollable = true ∨ ∃ inner,
      (device.inside offset found).find? (Selector.scrollable true).accepts = some inner)

theorem MeansList.showsContainer (means : device.MeansList container) (offset : Nat) :
    device.ShowsContainer container offset := by
  obtain ⟨found, isFound, isList⟩ := means offset
  refine ⟨found, isFound, ?_⟩
  rcases isList with rfl | rfl
  · cases nested : device.scrolls with
    | true => exact .inl nested
    | false =>
        refine .inr ⟨inner, ?_⟩
        simp [inside, innerList, nested, list, Element.withResource, Selector.accepts, inner]
  · exact .inl rfl

/-- A container that is shown is one to swipe on. -/
theorem ShowsContainer.resolves (shown : device.ShowsContainer container offset) (axis : Axis) :
    device.listScreen.ResolvesAt axis container offset := by
  obtain ⟨found, isFound, canScroll⟩ := shown
  refine ⟨found, isFound, ?_⟩
  cases scrolls : found.scrollable with
  | true => exact .inl ⟨rfl, trivial⟩
  | false =>
      obtain ⟨inner, isInner⟩ := canScroll.resolve_left (by simp [scrolls])
      exact .inr ⟨rfl, inner, isInner, trivial⟩

/-! ## Searches -/

/-- Moments at which the same page is shown. -/
def SamePage (moment other : Moment) : Prop :=
  moment.offset = other.offset

theorem find_agree (device : ListDevice) (handling : Device) (selector : Selector) :
    Agree device.engine SamePage (handling.find selector) (handling.find selector) :=
  device.listScreen.agree_of_takes fun offset =>
    ⟨_, _, _, _, .find handling selector offset, .find handling selector offset⟩

theorem step_agree (working : device.failingClick = none)
    (own : device.OwnButtons forward backward) (means : device.MeansList container)
    (search : Search) (axis : Axis) (margin otherMargin : UInt32)
    (waitSeconds otherSeconds : UInt64) (description : String) (way : Way) :
    Agree device.engine SamePage
      (search.step ⟨.buttons forward backward, margin, waitSeconds⟩ way description)
      (search.step ⟨.gesture axis container, otherMargin, otherSeconds⟩ way description) := by
  refine device.listScreen.agree_of_takes fun offset => ?_
  have swiped := ListScreen.takes_step_gesture ((means.showsContainer offset).resolves axis)
    search otherMargin otherSeconds way description
  exact ⟨_, _, _, _,
    takes_step_buttons working own search margin waitSeconds way description offset, swiped⟩

/-- Two scripts come to the same from a moment: they have the same result, which is no
error, and show the same page in the end. -/
def ComeToTheSame {α : Type} (device : ListDevice) (moment : Moment) (left right : Script α) :
    Prop :=
  ∃ value after otherAfter, left.run device.engine moment = (.ok value, after) ∧
    right.run device.engine moment = (.ok value, otherAfter) ∧ after.offset = otherAfter.offset

/-- On a list device whose clicks work, searches and rewindings by the two buttons come to
the same as those by swipes on the list, although a button that is disabled is neither
clicked nor waited for. -/
theorem buttons_agree_with_swipes (working : device.failingClick = none)
    (own : device.OwnButtons forward backward) (means : device.MeansList container)
    (search : Search) (axis : Axis) (margin otherMargin : UInt32)
    (waitSeconds otherSeconds : UInt64) (target : Selector) (description : String)
    (moment : Moment) :
    let buttons : Scroll := ⟨.buttons forward backward, margin, waitSeconds⟩
    let swipes : Scroll := ⟨.gesture axis container, otherMargin, otherSeconds⟩
    device.ComeToTheSame moment (search.find buttons target description)
        (search.find swipes target description) ∧
      device.ComeToTheSame moment (search.toBeginning buttons description)
        (search.toBeginning swipes description) ∧
      device.ComeToTheSame moment (search.toEnd buttons description)
        (search.toEnd swipes description) ∧
      ∀ way between, (device.button between.offset way).enabled = false →
        ∀ event ∈ (search.step buttons way description).events device.engine between,
          (∀ element answer, event ≠ .asked (.click element) answer) ∧
            ∀ duration, event ≠ .waited duration := by
  intro buttons swipes
  have step := step_agree working own means search axis margin otherMargin waitSeconds
    otherSeconds description
  refine ⟨Search.find_agree (find_agree ..) step rfl,
    Search.stepUntilStill_agree (step .backward) _ rfl,
    Search.stepUntilStill_agree (step .forward) _ rfl, ?_⟩
  intro way between disabled event member
  rw [events_step_of_disabled own search margin waitSeconds description disabled] at member
  simp only [List.mem_cons, List.not_mem_nil, or_false] at member
  rcases member with rfl | rfl <;> simp

/-- A device with eight rows inside a list that cannot be scrolled itself. -/
def eightRows : ListDevice where
  items := (List.range 8).map fun index =>
    { handle := "item-" ++ toString index, text := some ("Item " ++ toString index) }
  scrolls := false

/-- The pattern for a button. -/
def buttonPattern (way : Way) : Pattern :=
  (Pattern.ofSource? (buttonDescription way)).get (by cases way <;> decide +kernel)

/-- The descriptor of a button by what it says about itself. -/
def buttonDescriptor (way : Way) : Descriptor where
  kind := .description
  value := buttonDescription way
  package := none
  query := .description (buttonPattern way)
  value_trimmed := by cases way <;> decide
  package_trimmed := Descriptor.trimPackage_none
  denotes := by
    have filled : (buttonDescription way).isEmpty = false := by cases way <;> rfl
    have read : Pattern.ofSource? (buttonDescription way) = some (buttonPattern way) :=
      (Option.some_get _).symm
    rw [Descriptor.queryOf, filled]
    simp only [Bool.false_eq_true, if_false, Descriptor.patternOf, read, Except.map]

/-- The descriptor of the list. -/
def listDescriptor : Descriptor :=
  ⟨.resourceId, "recycler_view", some appPackage, .resource appPackage "recycler_view",
    by decide, by decide, rfl⟩

theorem eightRows_ownButtons :
    eightRows.OwnButtons (buttonDescriptor .forward) (buttonDescriptor .backward) :=
  eightRows.ownButtons_of_description rfl rfl (by decide +kernel) (by decide +kernel)
    (by decide +kernel)

/-- The sixth row is found by buttons as it is by swipes. -/
theorem buttons_agree_with_swipes_eightRows :
    let search : Search := {}
    let byButtons : Script (Option Element) := search.find
      ⟨.buttons (buttonDescriptor .forward) (buttonDescriptor .backward), 10, 1⟩
      (.textContains "Item 5") "find"
    let bySwipes : Script (Option Element) := search.find
      ⟨.gesture .horizontal listDescriptor, 20, 3⟩ (.textContains "Item 5") "find"
    eightRows.failingClick = none ∧ eightRows.ComeToTheSame {} byButtons bySwipes ∧
      (bySwipes.run eightRows.engine {}).2.offset = 2 := by
  have means : eightRows.MeansList listDescriptor := eightRows.meansList_of_resource rfl
  have agree := buttons_agree_with_swipes rfl eightRows_ownButtons means {} .horizontal 10 20 1 3
    (.textContains "Item 5") "find" {}
  exact ⟨rfl, agree.1, by decide +kernel⟩

end ListDevice

end Screenplay
