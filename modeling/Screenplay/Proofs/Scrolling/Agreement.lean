import Screenplay.Proofs.Script.Sequence
import Screenplay.Workflow.Search

/-!
# Ways to scroll that agree

Two scripts agree on an engine if they come to the same value from states that are alike,
and leave states that are alike again.  Agreement is kept by sequencing.  A search knows
of a step only whether it has moved something, so two ways to scroll whose steps agree
make all searches agree, however the steps are made.
-/

namespace Screenplay

variable {State α β : Type}

/-- From states that are alike, two scripts come to the same value and to states that are
alike. -/
def Agree (engine : Engine State) (alike : State → State → Prop) (left right : Script α) :
    Prop :=
  ∀ ⦃state other⦄, alike state other → ∃ value after otherAfter,
    left.run engine state = (.ok value, after) ∧
      right.run engine other = (.ok value, otherAfter) ∧ alike after otherAfter

namespace Agree

variable {engine : Engine State} {alike : State → State → Prop}

theorem pure (value : α) : Agree engine alike (Pure.pure value) (Pure.pure value) :=
  fun _ _ same => ⟨value, _, _, rfl, rfl, same⟩

theorem bind {left right : Script α} {next otherNext : α → Script β}
    (first : Agree engine alike left right)
    (rest : ∀ value, Agree engine alike (next value) (otherNext value)) :
    Agree engine alike (left >>= next) (right >>= otherNext) := by
  intro state other same
  obtain ⟨value, middle, otherMiddle, ran, otherRan, between⟩ := first same
  obtain ⟨final, after, otherAfter, ended, otherEnded, last⟩ := rest value between
  exact ⟨final, after, otherAfter, (Script.run_bind_of_ok ran next).trans ended,
    (Script.run_bind_of_ok otherRan otherNext).trans otherEnded, last⟩

end Agree

namespace Search

variable {engine : Engine State} {alike : State → State → Prop} {search : Search}
  {scroll other : Scroll} {target : Selector} {description : String}

theorem stepUntilStill_agree {way : Way}
    (step : Agree engine alike (search.step scroll way description)
      (search.step other way description)) (steps : Nat) :
    Agree engine alike (search.stepUntilStill scroll way description steps)
      (search.stepUntilStill other way description steps) := by
  induction steps with
  | zero => exact .pure ()
  | succ steps ih =>
      refine step.bind fun moved => ?_
      cases moved with
      | true => exact ih
      | false => exact .pure ()

theorem findForward_agree
    (look : Agree engine alike (search.device.find target) (search.device.find target))
    (step : Agree engine alike (search.step scroll .forward description)
      (search.step other .forward description)) (steps : Nat) :
    Agree engine alike (search.findForward scroll target description steps)
      (search.findForward other target description steps) := by
  induction steps with
  | zero => exact .pure none
  | succ steps ih =>
      refine step.bind fun moved => look.bind fun found => ?_
      cases found with
      | some element => exact .pure (some element)
      | none =>
          cases moved with
          | true => exact ih
          | false => exact .pure none

/-- Searches agree where their looks and their steps do. -/
theorem find_agree
    (look : Agree engine alike (search.device.find target) (search.device.find target))
    (step : ∀ way, Agree engine alike (search.step scroll way description)
      (search.step other way description)) :
    Agree engine alike (search.find scroll target description)
      (search.find other target description) := by
  refine look.bind fun found => ?_
  cases found with
  | some element => exact .pure (some element)
  | none =>
      refine (stepUntilStill_agree (step .backward) search.maxSteps).bind fun _ => ?_
      refine look.bind fun found => ?_
      cases found with
      | some element => exact .pure (some element)
      | none => exact findForward_agree look (step .forward) search.maxSteps

end Search

end Screenplay
