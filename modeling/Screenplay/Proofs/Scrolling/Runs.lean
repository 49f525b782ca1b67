import Screenplay.Proofs.Scrolling.ListScreen

/-!
# Scrolling on and on

On a list screen whose pages look different, a step moves the page if there is room for it
and tells whether it did.  Steps on and on therefore go as far as there is room, or as far
as their limit allows, and the one that moves nothing is the last.  This is so for every
way to scroll; what a step touches is left open.
-/

namespace Screenplay

namespace Way

/-- The offset that is a number of items away. -/
def shift (offset count : Nat) : Way → Nat
  | .forward => offset + count
  | .backward => offset - count

@[simp] theorem shift_zero (offset : Nat) (way : Way) : way.shift offset 0 = offset := by
  cases way <;> rfl

theorem shift_shift (offset first second : Nat) (way : Way) :
    way.shift (way.shift offset first) second = way.shift offset (first + second) := by
  cases way with
  | forward => exact Nat.add_assoc ..
  | backward => exact (Nat.sub_add_eq ..).symm

end Way

/-- What is touched by a number of steps in a direction, from an offset on. -/
def stretch (touched : Nat → Way → List Touch) (offset : Nat) (way : Way) (count : Nat) :
    List Touch :=
  (List.range count).flatMap fun index => touched (way.shift offset index) way

section

variable {touched : Nat → Way → List Touch} {offset : Nat} {way : Way}

@[simp] theorem stretch_zero : stretch touched offset way 0 = [] := rfl

@[simp] theorem stretch_one : stretch touched offset way 1 = touched offset way := by
  simp [stretch]

theorem stretch_succ (count : Nat) :
    stretch touched offset way (count + 1) =
      touched offset way ++ stretch touched (way.shift offset 1) way count := by
  rw [stretch, stretch, List.range_succ_eq_map, List.flatMap_cons, Way.shift_zero,
    List.flatMap_map]
  simp only [Way.shift_shift, Nat.add_comm 1, Nat.succ_eq_add_one]

theorem stretch_concat (count : Nat) :
    stretch touched offset way (count + 1) =
      stretch touched offset way count ++ touched (way.shift offset count) way := by
  rw [stretch, List.range_succ, List.flatMap_append, List.flatMap_singleton]
  rfl

/-- Swipes along an axis, one for each step. -/
theorem stretch_swipe (axis : Axis) (count : Nat) :
    stretch (fun _ way => [.swipe (way.swipe axis)]) offset way count =
      List.replicate count (.swipe (way.swipe axis)) := by
  rw [stretch, ← List.map_eq_flatMap, List.map_const', List.length_range]

end

namespace ListScreen

variable {State : Type} {engine : Engine State} {screen : ListScreen engine} {offset : Nat}
  {way : Way}

/-! ## Room to move -/

theorem moved_of_room (positive : 0 < screen.room offset way) :
    screen.moved offset way = way.shift offset 1 := by
  cases way with
  | forward => exact if_pos (Nat.lt_of_sub_pos positive)
  | backward => rfl

theorem room_shift (count : Nat) :
    screen.room (way.shift offset count) way = screen.room offset way - count := by
  cases way with
  | forward => exact Nat.sub_add_eq ..
  | backward => rfl

theorem shift_le_last (within : offset ≤ screen.last) {count : Nat}
    (fits : count ≤ screen.room offset way) : way.shift offset count ≤ screen.last := by
  cases way with
  | forward => exact Nat.add_le_of_le_sub' within fits
  | backward => exact Nat.le_trans (Nat.sub_le ..) within

/-! ## Runs -/

/-- The steps of a search move the page where there is room for it, and tell whether they
did. -/
def Scrolls (screen : ListScreen engine) (search : Search) (scroll : Scroll)
    (description : String) (touched : Nat → Way → List Touch) : Prop :=
  ∀ way, ∀ offset ≤ screen.last,
    screen.Takes (search.step scroll way description) offset
      (decide (0 < screen.room offset way)) (touched offset way) (screen.moved offset way)

/-- Swipes scroll a list screen whose pages look different. -/
theorem scrolls_gesture {axis : Axis} {container : Descriptor} (telling : screen.Telling)
    (resolves : screen.Resolves axis container) (search : Search) (margin : UInt32)
    (waitSeconds : UInt64) (description : String) :
    screen.Scrolls search ⟨.gesture axis container, margin, waitSeconds⟩ description
      fun _ way => [.swipe (way.swipe axis)] := by
  intro way offset within
  rw [← looksMoved_eq telling within way]
  exact takes_step_gesture (resolves offset within) search margin waitSeconds way description

variable {search : Search} {scroll : Scroll} {description : String}
  {touched : Nat → Way → List Touch}

/-- A step where there is room moves the page. -/
theorem Scrolls.moves (scrolls : screen.Scrolls search scroll description touched) (way : Way)
    (within : offset ≤ screen.last) (positive : 0 < screen.room offset way) :
    screen.Takes (search.step scroll way description) offset true (touched offset way)
      (way.shift offset 1) := by
  have stepped := scrolls way offset within
  rwa [decide_eq_true positive, moved_of_room positive] at stepped

/-- A step where there is no room moves nothing. -/
theorem Scrolls.rests (scrolls : screen.Scrolls search scroll description touched) (way : Way)
    (within : offset ≤ screen.last) (atEnd : screen.room offset way = 0) :
    screen.Takes (search.step scroll way description) offset false (touched offset way)
      offset := by
  have stepped := scrolls way offset within
  rwa [atEnd, decide_eq_false (Nat.lt_irrefl 0), moved_eq_iff.2 atEnd] at stepped

/-- Steps on and on go as far as there is room and the limit allows.  They touch what each
step that moves the page touches, and what the one at the end does. -/
theorem takes_stepUntilStill (scrolls : screen.Scrolls search scroll description touched)
    (way : Way) (steps : Nat) (within : offset ≤ screen.last) :
    screen.Takes (search.stepUntilStill scroll way description steps) offset ()
      (stretch touched offset way (min steps (screen.room offset way + 1)))
      (way.shift offset (min steps (screen.room offset way))) := by
  -- By induction on the limit: a step that moves the page takes one from the limit and one
  -- from the room, and one that does not is the last, whatever is left of the limit.
  induction steps generalizing offset with
  | zero =>
      rw [Nat.zero_min, Nat.zero_min, Way.shift_zero]
      exact Takes.pure () offset
  | succ steps ih =>
      rcases Nat.eq_zero_or_pos (screen.room offset way) with atEnd | positive
      · rw [atEnd, Nat.min_zero, Nat.min_eq_right (Nat.le_add_left ..), Way.shift_zero,
          stretch_one, ← List.append_nil (touched offset way)]
        exact (scrolls.rests way within atEnd).bind (Takes.pure () offset)
      · have rest := ih (shift_le_last within positive)
        have made : min (steps + 1) (screen.room offset way + 1) =
            min steps (screen.room offset way - 1 + 1) + 1 := by omega
        have stop : min (steps + 1) (screen.room offset way) =
            1 + min steps (screen.room offset way - 1) := by omega
        rw [room_shift, Way.shift_shift] at rest
        rw [made, stop, stretch_succ]
        exact (scrolls.moves way within positive).bind rest

/-- Where there is no room, steps on and on come to one step, which moves nothing and says
so. -/
theorem stepUntilStill_of_room_eq_zero
    (scrolls : screen.Scrolls search scroll description touched) (way : Way) (state : State)
    {steps : Nat} (positive : 0 < steps) (within : screen.offset state ≤ screen.last)
    (atEnd : screen.room (screen.offset state) way = 0) :
    screen.Leads (search.stepUntilStill scroll way description steps) state ()
        (touched (screen.offset state) way) (screen.offset state) ∧
      ((search.step scroll way description).run engine state).1 = .ok false ∧
      (search.stepUntilStill scroll way description steps).events engine state =
        (search.step scroll way description).events engine state := by
  obtain ⟨steps, rfl⟩ := Nat.exists_eq_succ_of_ne_zero (Nat.ne_of_gt positive)
  have led := takes_stepUntilStill scrolls way (steps + 1) within state rfl
  rw [atEnd, Nat.min_zero, Nat.min_eq_right (Nat.le_add_left ..), Way.shift_zero,
    stretch_one] at led
  obtain ⟨after, stepped, -, -⟩ := scrolls.rests way within atEnd state rfl
  refine ⟨led, congrArg Prod.fst stepped, ?_⟩
  exact (Script.events_bind_of_ok stepped _).trans (List.append_nil _)

theorem takes_toBeginning (scrolls : screen.Scrolls search scroll description touched)
    (within : offset ≤ screen.last) :
    screen.Takes (search.toBeginning scroll description) offset ()
      (stretch touched offset .backward (min search.maxSteps (offset + 1)))
      (offset - search.maxSteps) := by
  have run := takes_stepUntilStill scrolls .backward search.maxSteps within
  have stop : offset - min search.maxSteps offset = offset - search.maxSteps := by omega
  rw [room, Way.shift, stop] at run
  exact run

theorem takes_toEnd (scrolls : screen.Scrolls search scroll description touched)
    (within : offset ≤ screen.last) :
    screen.Takes (search.toEnd scroll description) offset ()
      (stretch touched offset .forward (min search.maxSteps (screen.last - offset + 1)))
      (min screen.last (offset + search.maxSteps)) := by
  have run := takes_stepUntilStill scrolls .forward search.maxSteps within
  have stop : offset + min search.maxSteps (screen.last - offset) =
      min screen.last (offset + search.maxSteps) := by omega
  rw [room, Way.shift, stop] at run
  exact run

end ListScreen

end Screenplay
