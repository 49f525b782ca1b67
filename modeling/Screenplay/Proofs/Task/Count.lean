import Screenplay.Task.Basic

/-!
# The counts of a task

A task has up to three natural numbers, which a document may leave out: how often it is
repeated, and the margin and the waiting time of its way to scroll.  Each has a limit and a
default.
-/

namespace Screenplay

/-- A natural number of a task, which a document may leave out. -/
inductive Count where
  | repeatCount
  | margin
  | waitSeconds

/-- Change the way to scroll of an action that has one. -/
def Action.changeScroll (change : Scroll → Scroll) : Action → Action
  | .scrollToFindAndClick element scroll optional =>
      .scrollToFindAndClick element (change scroll) optional
  | action => action

namespace Action

variable {change : Scroll → Scroll} {action : Action}

@[simp] theorem kind_changeScroll : (action.changeScroll change).kind = action.kind := by
  cases action with
  | scrollToFindAndClick _ _ optional => cases optional <;> rfl
  | _ => rfl

@[simp] theorem text?_changeScroll : (action.changeScroll change).text? = action.text? := by
  cases action <;> rfl

@[simp] theorem element?_changeScroll :
    (action.changeScroll change).element? = action.element? := by
  cases action <;> rfl

@[simp] theorem scroll?_changeScroll :
    (action.changeScroll change).scroll? = action.scroll?.map change := by
  cases action <;> rfl

end Action

namespace Count

/-- The property that holds a count. -/
def name : Count → String
  | .repeatCount => "REPEAT_COUNT"
  | .margin => "SCROLL_MARGIN"
  | .waitSeconds => "SCROLL_WAIT_TIME"

/-- The largest number that a count may be. -/
def limit : Count → Nat
  | .repeatCount | .margin => UInt32.size - 1
  | .waitSeconds => UInt64.size - 1

/-- The number that is meant if a count is left out. -/
def fallback : Count → Nat
  | .repeatCount => Task.defaultRepeatCount.toNat
  | .margin => Scroll.defaultMargin.toNat
  | .waitSeconds => Scroll.defaultWaitSeconds.toNat

/-- The count of a task, if it has one. -/
def of? (count : Count) (task : Task) : Option Nat :=
  match count with
  | .repeatCount => some task.repeatCount.toNat
  | .margin => task.action.scroll?.map (·.margin.toNat)
  | .waitSeconds => task.action.scroll?.map (·.waitSeconds.toNat)

/-- The task with another count. -/
def put (count : Count) (number : Nat) (task : Task) : Task :=
  match count with
  | .repeatCount => { task with repeatCount := .ofNat number }
  | .margin =>
      { task with action := task.action.changeScroll ({ · with margin := .ofNat number }) }
  | .waitSeconds =>
      { task with action := task.action.changeScroll ({ · with waitSeconds := .ofNat number }) }

variable {count : Count} {number : Nat} {task : Task}

theorem fallback_le_limit (count : Count) : count.fallback ≤ count.limit := by
  cases count <;> decide

theorem limit_le (count : Count) : count.limit ≤ UInt64.size - 1 := by
  cases count <;> decide

theorem trim_name (count : Count) : Text.trim count.name = count.name := by
  cases count <;> decide

theorem toNat_ofNat_uint32 (within : number ≤ UInt32.size - 1) :
    (UInt32.ofNat number).toNat = number :=
  UInt32.toNat_ofNat_of_lt' (Nat.lt_of_le_pred (by decide) within)

theorem toNat_ofNat_uint64 (within : number ≤ UInt64.size - 1) :
    (UInt64.ofNat number).toNat = number :=
  UInt64.toNat_ofNat_of_lt' (Nat.lt_of_le_pred (by decide) within)

/-- A count of a task is what it has been changed to. -/
theorem of?_put (has : (count.of? task).isSome) (within : number ≤ count.limit) :
    count.of? (count.put number task) = some number := by
  cases count with
  | repeatCount => exact congrArg some (toNat_ofNat_uint32 within)
  | margin =>
      rw [of?, Option.isSome_map, Option.isSome_iff_exists] at has
      rcases has with ⟨scroll, isScroll⟩
      simp [of?, put, isScroll, toNat_ofNat_uint32 within]
  | waitSeconds =>
      rw [of?, Option.isSome_map, Option.isSome_iff_exists] at has
      rcases has with ⟨scroll, isScroll⟩
      simp [of?, put, isScroll, toNat_ofNat_uint64 within]

end Count

end Screenplay
