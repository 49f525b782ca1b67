import Mathlib.Tactic.IntervalCases
import Screenplay.Proofs.Scrolling.Reach
import Screenplay.Stage.Engine

/-!
# Stages as list screens

A stage shows a list screen if nothing about it changes but the offset of its list:
every call is answered, its figures neither come nor go, its dumps tell no more than
what is shown, and its list moves by one item.  Its buttons may be disabled, which no
selector can tell.

The reach of a search on such a stage is that on any list screen.
-/

namespace Screenplay

namespace Stage

/-- Nothing about a stage changes but the offset of its list, by one item at a time. -/
structure ShowsList (stage : Stage) : Prop where
  paged : 0 < stage.pageSize
  single : stage.stride = 1
  answering : stage.rejected = ∅
  steady : stage.ticks = 0
  lasting : ∀ figure ∈ stage.fixed ++ stage.items, figure.arrives = 0 ∧ figure.leaves = none
  noButtons : ∀ figure ∈ stage.items,
    stage.forward ≠ some figure.element.handle ∧ stage.backward ≠ some figure.element.handle

/-- Swipes along an axis on an element with a handle move the list. -/
def Moves (stage : Stage) (axis : Axis) (handle : String) : Prop :=
  stage.swipeMoves handle axis.forward = true ∧ stage.swipeMoves handle axis.backward = true

/-- A descriptor means a figure that moves the list, or one that does not scroll but
whose first scrollable part moves the list. -/
def Resolves (stage : Stage) (axis : Axis) (container : Descriptor) : Prop :=
  ∃ list, stage.fixed.find? (fun figure => container.query.accepts figure.element) = some list ∧
    ((list.element.scrollable = true ∧ stage.Moves axis list.element.handle) ∨
      (list.element.scrollable = false ∧ ∃ inner,
        stage.fixed.find? (fun figure =>
          stage.inside (some list.element) figure && figure.element.scrollable) = some inner ∧
        stage.Moves axis inner.element.handle))

/-! ## Looks of elements -/

theorem present_eq_or (stage : Stage) (offset : Nat) (element : Element) :
    ∃ enabled, stage.present offset element = { element with enabled } := by
  rw [present]
  split
  · exact ⟨element.enabled, rfl⟩
  · split
    · exact ⟨_, rfl⟩
    · split
      · exact ⟨_, rfl⟩
      · exact ⟨element.enabled, rfl⟩

@[simp] theorem handle_present (stage : Stage) (offset : Nat) (element : Element) :
    (stage.present offset element).handle = element.handle := by
  rcases stage.present_eq_or offset element with ⟨enabled, same⟩
  rw [same]

@[simp] theorem scrollable_present (stage : Stage) (offset : Nat) (element : Element) :
    (stage.present offset element).scrollable = element.scrollable := by
  rcases stage.present_eq_or offset element with ⟨enabled, same⟩
  rw [same]

/-- No selector asks whether an element is enabled. -/
@[simp] theorem accepts_present (stage : Stage) (offset : Nat) (element : Element)
    (selector : Selector) :
    selector.accepts (stage.present offset element) = selector.accepts element := by
  rcases stage.present_eq_or offset element with ⟨enabled, same⟩
  rw [same]
  cases selector <;> rfl

@[simp] theorem inside_present (stage : Stage) (offset : Nat) (root : Element)
    (figure : Figure) :
    stage.inside (some (stage.present offset root)) figure = stage.inside (some root) figure := by
  simp [inside]

namespace ShowsList

variable {stage : Stage} (shows : stage.ShowsList)

include shows

theorem present_item (offset : Nat) {figure : Figure} (member : figure ∈ stage.items) :
    stage.present offset figure.element = figure.element := by
  rcases shows.noButtons figure member with ⟨noForward, noBackward⟩
  simp [present, noForward, noBackward]

theorem present_eq_true {figure : Figure} (member : figure ∈ stage.fixed ++ stage.items)
    (actions : Nat) : figure.present actions = true := by
  rcases shows.lasting figure member with ⟨arrives, leaves⟩
  simp [Figure.present, arrives, leaves]

/-- What is shown follows from the offset. -/
theorem visible_eq (scene : Scene) :
    stage.visible scene =
      (stage.fixed ++ stage.page scene.offset).map
        fun figure => { figure with element := stage.present scene.offset figure.element } := by
  rw [visible, List.filter_eq_self.2]
  intro figure member
  rcases List.mem_append.1 member with fixed | paged
  · exact shows.present_eq_true (List.mem_append_left _ fixed) _
  · rcases List.mem_map.1 paged with ⟨item, among, rfl⟩
    have isItem : item ∈ stage.items := List.mem_of_mem_drop (List.mem_of_mem_take among)
    exact shows.present_eq_true (List.mem_append_right _ isItem) _

theorem visible_eq_of_offset {scene other : Scene} (same : scene.offset = other.offset) :
    stage.visible scene = stage.visible other := by
  rw [shows.visible_eq, shows.visible_eq, same]

/-- The elements that are shown: the fixed ones and a page of items. -/
theorem map_visible (scene : Scene) :
    (stage.visible scene).map (·.element) =
      stage.fixed.map (fun figure => stage.present scene.offset figure.element) ++
        ((stage.items.map (·.element)).drop scene.offset).take stage.pageSize := by
  have paged : (stage.page scene.offset).map
      (fun figure => stage.present scene.offset figure.element) =
        ((stage.items.map (·.element)).drop scene.offset).take stage.pageSize := by
    rw [page, List.map_map, ← List.map_drop, ← List.map_take]
    refine List.map_congr_left fun item among => ?_
    have isItem : item ∈ stage.items := List.mem_of_mem_drop (List.mem_of_mem_take among)
    have sameLook := shows.present_item scene.offset isItem
    exact sameLook
  rw [shows.visible_eq, List.map_map, ← paged, ← List.map_append]
  rfl

theorem dumpText_eq_of_offset {scene other : Scene} (same : scene.offset = other.offset) :
    stage.dumpText scene = stage.dumpText other := by
  simp only [dumpText, shows.visible_eq_of_offset same, shows.steady, Nat.min_zero]

/-- Every call is answered. -/
theorem answer_eq (request : Request) (scene : Scene) :
    ∃ called : Scene, called.offset = scene.offset ∧
      stage.engine.answer request scene =
        (.ok (stage.effect called request).1, (stage.effect called request).2) := by
  refine ⟨_, ?_, if_neg ?_⟩
  · rw [Scene.act]
    split <;> rfl
  · rw [shows.answering]
    simp

/-- The first element that a selector means on the whole screen. -/
theorem search_none {selector : Selector} {scene called : Scene}
    (same : called.offset = scene.offset) :
    (stage.search selector none called).head? =
      (stage.fixed.map (fun figure => stage.present scene.offset figure.element) ++
        ((stage.items.map (·.element)).drop scene.offset).take stage.pageSize).find?
          selector.accepts := by
  have everywhere : (stage.visible called).filter (stage.inside none) = stage.visible called :=
    List.filter_eq_self.2 fun _ _ => rfl
  rw [search, List.head?_filter, everywhere, shows.map_visible, same]

/-- The first element that a selector means inside another one. -/
theorem search_some {selector : Selector} {root : Element} {scene called : Scene}
    (same : called.offset = scene.offset) :
    (stage.search selector (some root) called).head? =
      (((stage.visible { offset := scene.offset }).filter
        (stage.inside (some root))).map (·.element)).find? selector.accepts := by
  have looks : stage.visible called = stage.visible { offset := scene.offset } :=
    shows.visible_eq_of_offset same
  rw [search, List.head?_filter, looks]

theorem offset_swipe_forward {axis : Axis} {handle : String} (moves : stage.Moves axis handle)
    (scene : Scene) :
    (stage.swipe handle axis.forward scene).offset =
      if scene.offset < stage.items.length - stage.pageSize then scene.offset + 1
      else scene.offset := by
  have forward : stage.swipe handle axis.forward scene = stage.moveForward scene := by
    unfold swipe
    rw [if_pos moves.1]
    cases axis <;> rfl
  rw [forward, moveForward, lastOffset, shows.single]
  split
  next before => exact Nat.min_eq_left before
  next => rfl

theorem offset_swipe_backward {axis : Axis} {handle : String} (moves : stage.Moves axis handle)
    (scene : Scene) :
    (stage.swipe handle axis.backward scene).offset = scene.offset - 1 := by
  have backward : stage.swipe handle axis.backward scene = stage.moveBackward scene := by
    unfold swipe
    rw [if_pos moves.2]
    cases axis <;> rfl
  rw [backward, moveBackward, shows.single]

end ShowsList

/-- The list screen that a stage shows. -/
def listScreen (stage : Stage) (shows : stage.ShowsList) : ListScreen stage.engine where
  items := stage.items.map (·.element)
  pageSize := stage.pageSize
  offset := Scene.offset
  fixed offset := stage.fixed.map fun figure => stage.present offset figure.element
  inside offset root :=
    ((stage.visible { offset }).filter (stage.inside (some root))).map (·.element)
  text offset := stage.dumpText { offset }
  moves axis element := stage.Moves axis element.handle
  find_answer selector root timeout scene := by
    rcases shows.answer_eq (.find selector root timeout) scene with ⟨called, same, answered⟩
    rw [answered]
    cases root with
    | none => exact congrArg Except.ok (shows.search_none same)
    | some root => exact congrArg Except.ok (shows.search_some same)
  find_offset selector root timeout scene := by
    rcases shows.answer_eq (.find selector root timeout) scene with ⟨called, same, answered⟩
    rw [answered]
    exact same
  dump_answer scene := by
    rcases shows.answer_eq .dump scene with ⟨called, same, answered⟩
    rw [answered]
    exact congrArg Except.ok (shows.dumpText_eq_of_offset same)
  dump_offset scene := by
    rcases shows.answer_eq .dump scene with ⟨called, same, answered⟩
    rw [answered]
    exact same
  scroll_answer element direction margin scene := by
    rcases shows.answer_eq (.scroll element direction margin) scene with ⟨called, same, answered⟩
    rw [answered]
  scroll_forward axis element margin scene moves := by
    rcases shows.answer_eq (.scroll element axis.forward margin) scene with
      ⟨called, same, answered⟩
    rw [answered, ← same, List.length_map]
    exact shows.offset_swipe_forward moves called
  scroll_backward axis element margin scene moves := by
    rcases shows.answer_eq (.scroll element axis.backward margin) scene with
      ⟨called, same, answered⟩
    rw [answered, ← same]
    exact shows.offset_swipe_backward moves called
  wait_offset duration scene := rfl

/-! ## What a search finds -/

section

variable {stage : Stage} (shows : stage.ShowsList) {axis : Axis}

theorem find?_fixed {selector : Selector} {figure : Figure} (offset : Nat)
    (found : stage.fixed.find? (fun figure => selector.accepts figure.element) = some figure) :
    ((stage.listScreen shows).fixed offset).find? selector.accepts =
      some (stage.present offset figure.element) := by
  have looks : (selector.accepts ∘ fun figure : Figure => stage.present offset figure.element) =
      fun figure => selector.accepts figure.element :=
    funext fun figure => stage.accepts_present offset figure.element selector
  change (stage.fixed.map fun figure => stage.present offset figure.element).find? _ = _
  rw [List.find?_map, looks, found]
  rfl

/-- The first scrollable element inside another one. -/
theorem find?_inside {root : Element} {inner : Figure} (offset : Nat)
    (found : stage.fixed.find? (fun figure =>
      stage.inside (some root) figure && figure.element.scrollable) = some inner) :
    ((stage.listScreen shows).inside offset (stage.present offset root)).find?
        (Selector.scrollable true).accepts =
      some (stage.present offset inner.element) := by
  have looks : ∀ figure : Figure,
      (stage.inside (some (stage.present offset root))
          { figure with element := stage.present offset figure.element } &&
        (Selector.scrollable true).accepts (stage.present offset figure.element)) =
      (stage.inside (some root) figure && figure.element.scrollable) := by
    intro figure
    rw [inside_present, accepts_present, Selector.accepts, beq_true]
    rfl
  change (((stage.visible _).filter _).map _).find? _ = _
  rw [List.find?_map, List.find?_filter, shows.visible_eq, List.find?_map, List.find?_append]
  simp only [Function.comp_def, Bool.decide_and, Bool.decide_eq_true, looks, found]
  rfl

/-- A container that is found among the figures that stay is found at every offset. -/
theorem listScreen_resolves {container : Descriptor} (resolves : stage.Resolves axis container) :
    (stage.listScreen shows).Resolves axis container := by
  intro offset _
  rcases resolves with ⟨list, isList, direct | ⟨rigid, inner, isInner, moves⟩⟩
  · refine ⟨stage.present offset list.element, ?_, .inl ⟨?_, ?_⟩⟩
    · rw [ListScreen.shown, List.find?_append, find?_fixed shows offset isList]
      rfl
    · rw [scrollable_present]
      exact direct.1
    · change stage.Moves axis (stage.present offset list.element).handle
      rw [handle_present]
      exact direct.2
  · refine ⟨stage.present offset list.element, ?_, .inr ⟨?_, stage.present offset inner.element,
      find?_inside shows offset isInner, ?_⟩⟩
    · rw [ListScreen.shown, List.find?_append, find?_fixed shows offset isList]
      rfl
    · rw [scrollable_present]
      exact rigid
    · change stage.Moves axis (stage.present offset inner.element).handle
      rw [handle_present]
      exact moves

/-- What a script comes to on a stage: its result, the swipes it makes and the offset at
which it leaves the list. -/
structure Reach (α : Type) where
  result : Except RunError α
  swipes : List Direction
  offset : Nat

/-- What a script comes to from a scene on. -/
def reach {α : Type} (stage : Stage) (script : Script α) (scene : Scene) : Reach α where
  result := (script.run stage.engine scene).1
  swipes := Screenplay.swipes (script.events stage.engine scene)
  offset := (script.run stage.engine scene).2.offset

theorem reach_eq_of_takes {α : Type} {script : Script α} {scene : Scene} {result : α}
    {made : List Touch} {stop : Nat}
    (takes : (stage.listScreen shows).Takes script scene.offset result made stop) :
    stage.reach script scene = ⟨.ok result, made.filterMap Touch.direction?, stop⟩ := by
  rcases takes scene rfl with ⟨after, ran, touched, stopped⟩
  rw [reach, swipes, ran, touched]
  exact congrArg _ stopped

@[simp] theorem direction?_stretch (axis : Axis) (offset : Nat) (way : Way) (count : Nat) :
    (stretch (fun _ way => [Touch.swipe (way.swipe axis)]) offset way count).filterMap
        Touch.direction? =
      List.replicate count (way.swipe axis) := by
  rw [stretch_swipe]
  exact List.filterMap_replicate_of_some rfl

/-- How far a search by swipes gets on a stage that shows a list, where dumps differ
between pages and the target means no figure beside the list.  If an item of the page
is meant, the first such item is found without a swipe.  Otherwise the search rewinds
by as many swipes as there are items before the page, and one that moves nothing, up to
its limit.  From there it finds the first item in reach that is meant, with as many
swipes forward as it takes to show it; if there is none, it goes on until a swipe moves
nothing, up to its limit. -/
theorem search_reach {stage : Stage} (shows : stage.ShowsList) {axis : Axis}
    {container : Descriptor} {target : Selector} {scene : Scene}
    (telling : ∀ offset ≤ stage.lastOffset, ∀ other ≤ stage.lastOffset,
      stage.dumpText { offset } = stage.dumpText { offset := other } → offset = other)
    (resolves : stage.Resolves axis container)
    (onlyItems : ∀ figure ∈ stage.fixed, target.accepts figure.element = false)
    (within : scene.offset ≤ stage.lastOffset)
    (search : Search) (margin : UInt32) (waitSeconds : UInt64) (description : String) :
    let items := stage.items.map (·.element)
    let page := stage.pageSize
    let limit := search.maxSteps
    let start := scene.offset - limit
    let stop := min (start + limit) stage.lastOffset
    let rewound := List.replicate (min limit (scene.offset + 1)) axis.backward
    let reached := stage.reach
      (search.find ⟨.gesture axis container, margin, waitSeconds⟩ target description) scene
    (∃ index item, FirstIn items target scene.offset (scene.offset + page) index item ∧
        reached = ⟨.ok (some item), [], scene.offset⟩) ∨
      (NoneIn items target scene.offset (scene.offset + page) ∧
        ((∃ index item, FirstIn items target start (stop + page) index item ∧
            reached = ⟨.ok (some item),
              rewound ++ List.replicate (index + 1 - page - start) axis.forward,
              max start (index + 1 - page)⟩) ∨
          (NoneIn items target start (stop + page) ∧
            reached = ⟨.ok none,
              rewound ++ List.replicate (min limit (stage.lastOffset - start + 1)) axis.forward,
              stop⟩))) := by
  intro items page limit start stop rewound reached
  have sameLast : (stage.listScreen shows).last = stage.lastOffset :=
    congrArg (· - stage.pageSize) (List.length_map _)
  have screenTelling : (stage.listScreen shows).Telling := by
    rw [ListScreen.Telling, sameLast]
    exact telling
  have screenOnlyItems : (stage.listScreen shows).OnlyItems target := by
    intro offset element member
    rcases List.mem_map.1 member with ⟨figure, among, rfl⟩
    rw [accepts_present]
    exact onlyItems figure among
  have screenWithin : scene.offset ≤ (stage.listScreen shows).last := sameLast ▸ within
  have scrolls := ListScreen.scrolls_gesture screenTelling (listScreen_resolves shows resolves)
    search margin waitSeconds description
  have searched := ListScreen.takes_search scrolls shows.paged screenOnlyItems screenWithin
  rw [sameLast] at searched
  rcases searched with
    ⟨index, item, found, takes⟩ | ⟨missing, ⟨index, item, found, takes⟩ | ⟨missingInReach, takes⟩⟩
  · exact .inl ⟨index, item, found, reach_eq_of_takes shows takes⟩
  · refine .inr ⟨missing, .inl ⟨index, item, found, ?_⟩⟩
    have reachedItem := reach_eq_of_takes shows takes
    rw [List.filterMap_append, direction?_stretch, direction?_stretch] at reachedItem
    exact reachedItem
  · refine .inr ⟨missing, .inr ⟨missingInReach, ?_⟩⟩
    have reachedStop := reach_eq_of_takes shows takes
    rw [List.filterMap_append, direction?_stretch, direction?_stretch] at reachedStop
    exact reachedStop

end

/-- A list of five rows, two of which are shown, in a container inside another one. -/
def fiveRows : Stage where
  fixed :=
    [{ element := { handle := "list", resourceName := some "com.app:id/list" } },
      { element := { handle := "inner", scrollable := true }, parent := some "list" }]
  items := (List.range 5).map Figure.row
  itemsParent := some "inner"
  pageSize := 2

/-- The outer container of the five rows. -/
def fiveRowsList : Descriptor :=
  ⟨.resourceId, "list", some "com.app", .resource "com.app" "list", by decide, by decide, rfl⟩

theorem search_reach_fiveRows :
    fiveRows.reach
        (({} : Search).find ⟨.gesture .vertical fiveRowsList, 10, 1⟩ (.textContains "4") "find")
        { offset := 2 } =
      ⟨.ok (some (Figure.row 4).element), [.up, .up, .up, .down, .down, .down], 3⟩ := by
  have shows : fiveRows.ShowsList :=
    ⟨by decide, rfl, rfl, rfl, by decide, by decide⟩
  have resolves : fiveRows.Resolves .vertical fiveRowsList :=
    ⟨_, rfl, .inr ⟨rfl, _, rfl, rfl, rfl⟩⟩
  have early : NoneIn (fiveRows.items.map (·.element)) (.textContains "4") 0 4 := by
    intro index item _ below here
    interval_cases index <;> cases here <;> decide
  rcases @search_reach fiveRows shows .vertical fiveRowsList (.textContains "4") { offset := 2 }
      (by decide) resolves (by decide) (by decide) {} 10 1 "find" with
    ⟨index, item, found, -⟩ | ⟨-, ⟨index, item, found, reached⟩ | ⟨missing, -⟩⟩
  · have late := (found.narrow (Nat.le_refl _) found.notBefore found.below).le_of_noneIn
      (early.mono (Nat.zero_le 2) (Nat.le_refl 4))
    exact absurd found.below (Nat.not_lt.2 late)
  · have isLast : index = 4 :=
      Nat.le_antisymm (Nat.le_of_lt_succ found.below) (found.le_of_noneIn early)
    subst isLast
    have isRow := found.here
    cases isRow
    exact reached
  · exact absurd (missing 4 _ (by decide) (by decide) rfl) (by decide)

end Stage

end Screenplay
