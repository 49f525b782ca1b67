import Mathlib.Data.List.Basic
import Screenplay.Proofs.Scrolling.Buttons
import Screenplay.Proofs.Scrolling.Reach

/-!
# Scrolling to an end

On a list device whose pages look different, a step moves the page if there is room for it
and tells whether it did.  Scrolling to an end therefore goes as far as there is room, or
as far as the limit allows, as on any list screen, and so does a search.  What is touched
on the way differs: the swipe that moves nothing is made, and tells that the end is there,
while a button tells this by being disabled and is not clicked.
-/

namespace Screenplay

namespace ListDevice

variable {device : ListDevice} {offset : Nat} {way : Way} {moment : Moment} {scroll : Scroll}
  {action : ScrollAction}

/-- The offset of the last page. -/
def lastOffset (device : ListDevice) : Nat :=
  device.listScreen.last

/-- Pages at different offsets look different. -/
def Telling (device : ListDevice) : Prop :=
  device.listScreen.Telling

/-- From a moment a script ends with a result, after some touches, at an offset. -/
def Leads {α : Type} (device : ListDevice) (script : Script α) (moment : Moment) (result : α)
    (made : List Touch) (stop : Nat) : Prop :=
  device.listScreen.Leads script moment result made stop

/-- A way to scroll that works on a device: clicks work and the buttons are meant, or there
always is something to swipe on. -/
inductive Works (device : ListDevice) : ScrollAction → Prop where
  | buttons {forward backward : Descriptor} (working : device.failingClick = none)
      (own : device.OwnButtons forward backward) : Works device (.buttons forward backward)
  | gesture {axis : Axis} {container : Descriptor}
      (shown : ∀ offset ≤ device.lastOffset, device.ShowsContainer container offset) :
      Works device (.gesture axis container)

/-- A way to scroll that works moves the page where there is room, and tells whether it
did. -/
theorem Works.scrolls (works : device.Works scroll.action) (telling : device.Telling)
    (search : Search) (description : String) :
    device.listScreen.Scrolls search scroll description
      fun offset way => device.stepTouches offset way scroll.action := by
  intro way offset within
  rw [← ListScreen.looksMoved_eq telling within way]
  obtain ⟨action, margin, waitSeconds⟩ := scroll
  cases works with
  | buttons working own =>
      exact takes_step_buttons working own search margin waitSeconds way description offset
  | gesture shown =>
      exact ListScreen.takes_step_gesture ((shown offset within).resolves _) search margin
        waitSeconds way description

/-- What is touched by steps in a direction: by each one that moves the page, and by the one
at the end, as far as the limit goes. -/
def runTouches (device : ListDevice) (offset : Nat) (way : Way) (action : ScrollAction)
    (steps : Nat) : List Touch :=
  stretch (fun offset way => device.stepTouches offset way action) offset way
    (min steps (device.listScreen.room offset way + 1))

theorem runTouches_gesture (offset : Nat) (way : Way) (axis : Axis) (container : Descriptor)
    (steps : Nat) :
    device.runTouches offset way (.gesture axis container) steps =
      List.replicate (min steps (device.listScreen.room offset way + 1))
        (.swipe (way.swipe axis)) :=
  stretch_swipe axis _

/-- Clicks are made where there is room. -/
theorem stretch_buttons (forward backward : Descriptor) {count : Nat}
    (fits : count ≤ device.listScreen.room offset way) :
    stretch (fun offset way => device.stepTouches offset way (.buttons forward backward))
        offset way count =
      (List.range count).map fun index => .click (device.button (way.shift offset index) way) := by
  rw [stretch, List.map_eq_flatMap]
  refine List.flatMap_congr fun index among => ?_
  have room : 0 < device.listScreen.room (way.shift offset index) way := by
    rw [ListScreen.room_shift]
    exact Nat.sub_pos_of_lt (Nat.lt_of_lt_of_le (List.mem_range.1 among) fits)
  rw [stepTouches, canMove_eq, decide_eq_true room]
  rfl

/-- The button is clicked once for every item that the page is moved by, and is enabled
then; where it is disabled it is not clicked. -/
theorem runTouches_buttons (offset : Nat) (way : Way) (forward backward : Descriptor)
    (steps : Nat) :
    device.runTouches offset way (.buttons forward backward) steps =
      (List.range (min steps (device.listScreen.room offset way))).map fun count =>
        .click (device.button (way.shift offset count) way) := by
  rcases Nat.lt_or_ge (device.listScreen.room offset way) steps with beyond | fits
  · rw [runTouches, Nat.min_eq_right beyond, Nat.min_eq_right (Nat.le_of_lt beyond),
      stretch_concat, stretch_buttons forward backward (Nat.le_refl _), stepTouches, canMove_eq,
      ListScreen.room_shift, Nat.sub_self]
    exact List.append_nil _
  · rw [runTouches, Nat.min_eq_left (Nat.le_succ_of_le fits), Nat.min_eq_left fits,
      stretch_buttons forward backward fits]

/-- No button that is disabled is clicked. -/
theorem enabled_of_click_mem {element : Element} {steps : Nat}
    (clicked : .click element ∈ device.runTouches offset way action steps) :
    element.enabled = true := by
  obtain ⟨count, -, touched⟩ := List.mem_flatMap.1 clicked
  change _ ∈ device.stepTouches _ way action at touched
  cases action with
  | gesture axis container => simp [stepTouches] at touched
  | buttons forward backward =>
      rw [stepTouches] at touched
      split at touched
      next moves =>
        cases List.mem_singleton.1 touched
        exact moves
      next => cases touched

/-! ## Ends -/

theorem leads_toBeginning (telling : device.Telling) (works : device.Works scroll.action)
    (search : Search) (description : String) (within : moment.offset ≤ device.lastOffset) :
    device.Leads (search.toBeginning scroll description) moment ()
      (device.runTouches moment.offset .backward scroll.action search.maxSteps)
      (moment.offset - search.maxSteps) :=
  ListScreen.takes_toBeginning (works.scrolls telling search description) within moment rfl

theorem leads_toEnd (telling : device.Telling) (works : device.Works scroll.action)
    (search : Search) (description : String) (within : moment.offset ≤ device.lastOffset) :
    device.Leads (search.toEnd scroll description) moment ()
      (device.runTouches moment.offset .forward scroll.action search.maxSteps)
      (min device.lastOffset (moment.offset + search.maxSteps)) :=
  ListScreen.takes_toEnd (works.scrolls telling search description) within moment rfl

/-- How scrolling to the beginning and to the end of a list goes, from every offset and with
every limit.  With a limit that is at least the offset of the last page, the ends are
reached, and scrolling to one again is one step that moves nothing. -/
theorem toBeginning_toEnd_exact (telling : device.Telling) (search : Search) (scroll : Scroll)
    (description : String) (works : device.Works scroll.action)
    (within : moment.offset ≤ device.lastOffset) :
    let start := moment.offset
    let last := device.lastOffset
    let limit := search.maxSteps
    let back := search.toBeginning scroll description
    let on := search.toEnd scroll description
    (∀ axis container, scroll.action = .gesture axis container →
      device.Leads back moment ()
          (List.replicate (min limit (start + 1)) (.swipe axis.backward)) (start - limit) ∧
        device.Leads on moment ()
          (List.replicate (min limit (last - start + 1)) (.swipe axis.forward))
          (min last (start + limit))) ∧
    (∀ forward backward, scroll.action = .buttons forward backward →
      device.Leads back moment ()
          ((List.range (min limit start)).map fun count =>
            .click (device.button (start - count) .backward)) (start - limit) ∧
        device.Leads on moment ()
          ((List.range (min limit (last - start))).map fun count =>
            .click (device.button (start + count) .forward)) (min last (start + limit))) ∧
    (∀ (way : Way) element,
      .click element ∈ touches ((way.choose on back).events device.engine moment) →
        element.enabled = true) ∧
    (last ≤ limit →
      device.Leads (on >>= fun _ => back) moment ()
          (device.runTouches start .forward scroll.action limit ++
            device.runTouches last .backward scroll.action limit) 0 ∧
      ∀ way : Way, 0 < limit →
        let after := ((way.choose on back).run device.engine moment).2
        let step := search.step scroll way description
        device.Leads (way.choose on back) after ()
            (device.stepTouches after.offset way scroll.action) after.offset ∧
          (step.run device.engine after).1 = .ok false ∧
          (way.choose on back).events device.engine after = step.events device.engine after) := by
  intro start last limit back on
  have backward := leads_toBeginning telling works search description within
  have forward := leads_toEnd telling works search description within
  refine ⟨fun axis container isGesture => ?_, fun _ _ isButtons => ?_, fun way element => ?_,
    fun reaches => ?_⟩
  · rw [isGesture, runTouches_gesture] at backward forward
    exact ⟨backward, forward⟩
  · rw [isButtons, runTouches_buttons] at backward forward
    exact ⟨backward, forward⟩
  · obtain ⟨-, -, touchedBack, -⟩ := backward
    obtain ⟨-, -, touchedOn, -⟩ := forward
    cases way with
    | forward =>
        rw [Way.choose, touchedOn]
        exact enabled_of_click_mem
    | backward =>
        rw [Way.choose, touchedBack]
        exact enabled_of_click_mem
  · have reachedLast : min last (start + limit) = last :=
      Nat.min_eq_left (Nat.le_trans reaches (Nat.le_add_left ..))
    have reachedStart : start - limit = 0 := Nat.sub_eq_zero_of_le (Nat.le_trans within reaches)
    rw [reachedLast] at forward
    rw [reachedStart] at backward
    refine ⟨forward.bind fun between there => ?_, fun way positive => ?_⟩
    · have led := leads_toBeginning telling works search description (Nat.le_of_eq there)
      have here : between.offset = last := there
      rw [here, Nat.sub_eq_zero_of_le reaches] at led
      exact led
    · have scrolls := works.scrolls telling search description
      cases way with
      | forward =>
          obtain ⟨after, ran, -, stopped⟩ := forward
          have atEnd : after.offset = last := stopped
          rw [Way.choose, ran]
          exact ListScreen.stepUntilStill_of_room_eq_zero scrolls .forward after positive
            (Nat.le_of_eq atEnd) (Nat.sub_eq_zero_of_le (Nat.le_of_eq atEnd.symm))
      | backward =>
          obtain ⟨after, ran, -, stopped⟩ := backward
          have atStart : after.offset = 0 := stopped
          rw [Way.choose, ran]
          exact ListScreen.stepUntilStill_of_room_eq_zero scrolls .backward after positive
            (Nat.le_trans (Nat.le_of_eq atStart) (Nat.zero_le _)) atStart

/-- From the second row on, the last page is reached by three clicks, or by three swipes and
one that moves nothing. -/
theorem toBeginning_toEnd_exact_eightRows :
    let search : Search := { maxSteps := 4 }
    let swipes : Scroll := ⟨.gesture .vertical listDescriptor, 10, 1⟩
    let buttons : Scroll :=
      ⟨.buttons (buttonDescriptor .forward) (buttonDescriptor .backward), 10, 1⟩
    let moment : Moment := { offset := 1 }
    eightRows.Telling ∧ eightRows.Works swipes.action ∧ eightRows.Works buttons.action ∧
      moment.offset ≤ eightRows.lastOffset ∧
      eightRows.Leads (search.toEnd swipes "rows") moment ()
        (List.replicate 4 (.swipe .down)) 4 ∧
      eightRows.Leads (search.toEnd buttons "rows") moment ()
        ([1, 2, 3].map fun offset => .click (eightRows.button offset .forward)) 4 := by
  intro search swipes buttons moment
  have telling : eightRows.Telling := by
    unfold Telling ListScreen.Telling
    decide +kernel
  have swiping : eightRows.Works swipes.action :=
    .gesture fun offset _ => (eightRows.meansList_of_resource rfl).showsContainer offset
  have clicking : eightRows.Works buttons.action := .buttons rfl eightRows_ownButtons
  have within : moment.offset ≤ eightRows.lastOffset := by decide
  obtain ⟨bySwipes, -⟩ := toBeginning_toEnd_exact telling search swipes "rows" swiping within
  obtain ⟨-, byButtons, -⟩ := toBeginning_toEnd_exact telling search buttons "rows" clicking within
  exact ⟨telling, swiping, clicking, within, (bySwipes _ _ rfl).2, (byButtons _ _ rfl).2⟩

/-! ## Searches -/

/-- How far a search gets on a list device, by buttons as by swipes: it finds the first item
on the page that is meant, or else the first one in reach after it has rewound, or else
nothing. -/
theorem leads_find (telling : device.Telling) (works : device.Works scroll.action)
    (paged : 0 < device.pageSize) {target : Selector}
    (onlyItems : device.listScreen.OnlyItems target) (within : moment.offset ≤ device.lastOffset)
    (search : Search) (description : String) :
    let sought := search.find scroll target description
    let page := device.pageSize
    let start := moment.offset - search.maxSteps
    let stop := min (start + search.maxSteps) device.lastOffset
    let touched := fun offset way => device.runTouches offset way scroll.action
    let rewound := touched moment.offset .backward search.maxSteps
    (∃ index item,
        FirstIn device.items target moment.offset (moment.offset + page) index item ∧
        device.Leads sought moment (some item) [] moment.offset) ∨
      (NoneIn device.items target moment.offset (moment.offset + page) ∧
        ((∃ index item, FirstIn device.items target start (stop + page) index item ∧
            device.Leads sought moment (some item)
              (rewound ++ touched start .forward (index + 1 - page - start))
              (max start (index + 1 - page))) ∨
          (NoneIn device.items target start (stop + page) ∧
            device.Leads sought moment none
              (rewound ++ touched start .forward search.maxSteps) stop))) := by
  intro sought page start stop touched rewound
  rcases ListScreen.takes_search (works.scrolls telling search description) paged onlyItems
      within with
    ⟨index, item, found, takes⟩ | ⟨missing, ⟨index, item, found, takes⟩ | ⟨missingInReach, takes⟩⟩
  · exact .inl ⟨index, item, found, takes moment rfl⟩
  · -- What is in reach is on a page, so the way to it is not cut short by the end.
    have inReach : index + 1 - page - start ≤ device.lastOffset - start := by
      have below : index < min (start + search.maxSteps) device.lastOffset + page := found.below
      omega
    have made : min (index + 1 - page - start) (device.lastOffset - start + 1) =
        index + 1 - page - start := Nat.min_eq_left (Nat.le_succ_of_le inReach)
    have led := takes moment rfl
    refine .inr ⟨missing, .inl ⟨index, item, found, ?_⟩⟩
    change device.Leads sought moment _ (_ ++ stretch _ start .forward
      (min (index + 1 - page - start) (device.lastOffset - start + 1))) _
    rw [made]
    exact led
  · exact .inr ⟨missing, .inr ⟨missingInReach, takes moment rfl⟩⟩

end ListDevice

end Screenplay
