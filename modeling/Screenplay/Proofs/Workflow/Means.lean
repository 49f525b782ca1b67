import Screenplay.Proofs.Script.MadeOf
import Screenplay.Workflow.Executor

/-!
# What actions are made of

The script of an action is put together from those of devices and searches.  The errors
with which it may end of its own accord depend on the kind of its task, except that a blank
command or package is refused as well.

An action checks first: where its payload, or what it has found, does not allow it to go on,
it ends before it has touched the device.  The exception is scrolling, which may lack what
it needs for a step after others have been made.
-/

namespace Screenplay

/-- A request that only looks at what there is. -/
def Request.Looks : Request → Prop
  | .find _ _ _ | .findAll _ _ _ | .isForeground _ | .screenBounds | .dump => True
  | _ => False

/-- Nothing is done in an event but to look. -/
def Event.Looks : Event → Prop
  | .asked request _ => request.Looks
  | .waited _ => False

theorem Event.Looks.target?_eq_none {event : Event} (looks : event.Looks) :
    event.target? = none := by
  cases event with
  | waited => rfl
  | asked request answer => cases request <;> first | rfl | exact looks.elim

/-- The errors with which a task of some kind may end of its own accord, if its text is not
blank. -/
def TaskKind.MayRaise (kind : TaskKind) : RunError → Prop
  | .invalidValue _ => kind = .press ∨ kind = .longPress ∨ kind = .wait
  | .unsupportedOperation _ => kind = .press ∨ kind = .longPress ∨ kind = .longClick
  | .conditionNotMet _ => kind = .hasPackageInForeground
  | .missingElement _ => kind.takesText = false ∧ kind ≠ .clickIfExists
  | .configuration _ | .platform _ | .taskFailed _ _ _ _ => False

namespace Action

/-- The text of an action is blank. -/
def IsBlank (action : Action) : Prop :=
  ∃ words ∈ action.text?, Text.isBlankText words = true

/-- The errors with which an action may end of its own accord. -/
def MayRaise (action : Action) (error : RunError) : Prop :=
  action.kind.MayRaise error ∨ (action.IsBlank ∧ ∃ description, error = .invalidValue description)

/-- Whether an action clicks or holds elements. -/
def handlesElements : Action → Bool
  | .click _ _ | .longClick _ | .scrollToFindAndClick _ _ _ => true
  | _ => false

/-- What an action may do.  Only some actions act on elements. -/
def MayDo (action : Action) (event : Event) : Prop :=
  action.handlesElements = false → event.target? = none

/-- What an action may do although it fails. -/
def Harmless (action : Action) (event : Event) : Prop :=
  action.scroll? = none → event.Looks

theorem Harmless.mayDo {action : Action} {event : Event} (harmless : action.Harmless event) :
    action.MayDo event := by
  intro noElement
  refine (harmless ?_).target?_eq_none
  cases action with
  | scrollToFindAndClick => cases noElement
  | _ => rfl

end Action

namespace Device

variable {does harmless : Event → Prop} {fails : RunError → Prop} (device : Device)

theorem find_madeOf (looks : ∀ event, event.Looks → does event) (selector : Selector) :
    (device.find selector).MadeOf does fails :=
  .perform fun _ => looks _ trivial

theorem findWithin_madeOf (looks : ∀ event, event.Looks → does event) (root : Element)
    (selector : Selector) : (device.findWithin root selector).MadeOf does fails :=
  .perform fun _ => looks _ trivial

theorem hasElement_madeOf (looks : ∀ event, event.Looks → does event) (selector : Selector) :
    (device.hasElement selector).MadeOf does fails :=
  .bind (.perform fun _ => looks _ trivial) fun _ => .pure _

theorem hierarchy_madeOf (looks : ∀ event, event.Looks → does event) :
    hierarchy.MadeOf does fails :=
  .perform fun _ => looks _ trivial

theorem clickAndWait_madeOf (all : ∀ event, does event) (element : Element) :
    (device.clickAndWait element).MadeOf does fails :=
  .bind (.perform fun _ => all _) fun _ => .pause (all _)

theorem longClick_checksFirst (all : ∀ event, does event)
    (refuses : ∀ description, fails (.unsupportedOperation description)) (element : Element) :
    (device.longClick element).ChecksFirst does harmless fails := by
  rw [longClick]
  split
  · exact .sure (.bind (.perform fun _ => all _) fun _ => .pause (all _))
  · exact .checks (.fail (refuses _))

theorem longPressKey_madeOf (untargeted : ∀ event, event.target? = none → does event)
    (code : UInt32) : (device.longPressKey code).MadeOf does fails :=
  .bind (.perform fun _ => untargeted _ rfl) fun _ => .pause (untargeted _ rfl)

theorem longPressScreenCenter_madeOf (untargeted : ∀ event, event.target? = none → does event) :
    device.longPressScreenCenter.MadeOf does fails :=
  .bind (.perform fun _ => untargeted _ rfl) fun _ => .bind (.perform fun _ => untargeted _ rfl)
    fun _ => .pause (untargeted _ rfl)

theorem runShellCommand_checksFirst (untargeted : ∀ event, event.target? = none → does event)
    (command : String) (refuses : Text.isBlankText command = true →
      ∀ description, fails (.invalidValue description)) :
    (Device.runShellCommand command).ChecksFirst does harmless fails := by
  rw [runShellCommand]
  split
  next blank => exact .checks (.fail (refuses blank _))
  next => exact .sure (.perform fun _ => untargeted _ rfl)

theorem hasPackageInForeground_madeOf (looks : ∀ event, event.Looks → does event)
    (package : String) (refuses : Text.isBlankText package = true →
      ∀ description, fails (.invalidValue description)) :
    (Device.hasPackageInForeground package).MadeOf does fails :=
  .ite (fun blank => .fail (refuses blank _)) fun _ => .perform fun _ => looks _ trivial

end Device

namespace Search

variable {does : Event → Prop} {fails : RunError → Prop} (search : Search)

theorem container_madeOf (looks : ∀ event, event.Looks → does event)
    (missing : ∀ description, fails (.missingElement description)) (element : Descriptor)
    (description : String) : (search.container element description).MadeOf does fails := by
  apply Script.MadeOf.bind (search.device.find_madeOf looks _)
  intro found
  cases found with
  | none => exact .fail (missing _)
  | some found =>
      refine .ite (fun _ => .pure _) fun _ => ?_
      apply Script.MadeOf.bind (search.device.findWithin_madeOf looks _ _)
      intro inner
      cases inner with
      | none => exact .fail (missing _)
      | some inner => exact .pure _

theorem button_madeOf (looks : ∀ event, event.Looks → does event)
    (missing : ∀ description, fails (.missingElement description)) (button : Descriptor)
    (description : String) : (search.button button description).MadeOf does fails := by
  apply Script.MadeOf.bind (search.device.find_madeOf looks _)
  intro found
  cases found with
  | none => exact .fail (missing _)
  | some found => exact .pure _

variable (all : ∀ event, does event) (missing : ∀ description, fails (.missingElement description))

include all

theorem observe_madeOf (scroll : Scroll) (before : String) :
    (observe scroll before).MadeOf does fails :=
  .bind (.pause (all _)) fun _ => .bind (Device.hierarchy_madeOf fun _ _ => all _) fun _ => .pure _

include missing

theorem step_madeOf (scroll : Scroll) (way : Way) (description : String) :
    (search.step scroll way description).MadeOf does fails := by
  apply Script.MadeOf.bind (Device.hierarchy_madeOf fun _ _ => all _)
  intro before
  cases scroll.action with
  | buttons forward backward =>
      refine .bind (search.button_madeOf (fun _ _ => all _) missing _ _) fun found => ?_
      refine .ite (fun _ => ?_) fun _ => .pure _
      exact .bind (.perform fun _ => all _) fun _ => observe_madeOf all _ _
  | gesture axis element =>
      refine .bind (search.container_madeOf (fun _ _ => all _) missing _ _) fun found => ?_
      exact .bind (.perform fun _ => all _) fun _ => observe_madeOf all _ _

theorem stepUntilStill_madeOf (scroll : Scroll) (way : Way) (description : String) (steps : Nat) :
    (search.stepUntilStill scroll way description steps).MadeOf does fails := by
  induction steps with
  | zero => exact .pure _
  | succ steps ih =>
      refine .bind (search.step_madeOf all missing _ _ _) fun _ => ?_
      exact .ite (fun _ => ih) fun _ => .pure _

theorem findForward_madeOf (scroll : Scroll) (target : Selector) (description : String)
    (steps : Nat) : (search.findForward scroll target description steps).MadeOf does fails := by
  induction steps with
  | zero => exact .pure _
  | succ steps ih =>
      apply Script.MadeOf.bind (search.step_madeOf all missing _ _ _)
      intro moved
      apply Script.MadeOf.bind (search.device.find_madeOf (fun _ _ => all _) _)
      intro found
      cases found with
      | some found => exact .pure _
      | none => exact .ite (fun _ => ih) fun _ => .pure _

theorem find_madeOf (scroll : Scroll) (target : Selector) (description : String) :
    (search.find scroll target description).MadeOf does fails := by
  apply Script.MadeOf.bind (search.device.find_madeOf (fun _ _ => all _) _)
  intro found
  cases found with
  | some found => exact .pure _
  | none =>
      apply Script.MadeOf.bind (search.stepUntilStill_madeOf all missing _ _ _ _)
      intro _
      apply Script.MadeOf.bind (search.device.find_madeOf (fun _ _ => all _) _)
      intro found
      cases found with
      | some found => exact .pure _
      | none => exact search.findForward_madeOf all missing _ _ _ _

end Search

/-- A text that names no key is an invalid code or a name that is not supported. -/
theorem Key.of_ofText_error {fails : RunError → Prop} {text : String} {error : RunError}
    (refused : Key.ofText text = .error error)
    (invalid : ∀ description, fails (.invalidValue description))
    (unsupported : ∀ description, fails (.unsupportedOperation description)) : fails error := by
  simp only [Key.ofText] at refused
  split at refused
  · split at refused
    · cases refused
    · cases refused
      exact invalid _
  · split at refused
    · cases refused
    · cases refused
      exact unsupported _

namespace Executor

variable {does harmless : Event → Prop} {fails : RunError → Prop} (executor : Executor)

theorem press_checksFirst (untargeted : ∀ event, event.target? = none → does event)
    (refuses : ∀ description, fails (.unsupportedOperation description)) (key : Key) :
    (press key).ChecksFirst does harmless fails := by
  cases key with
  | screenCenter => exact .checks (.fail (refuses _))
  | _ => exact .sure (.perform fun _ => untargeted _ rfl)

theorem longPress_checksFirst (untargeted : ∀ event, event.target? = none → does event)
    (refuses : ∀ description, fails (.unsupportedOperation description)) (key : Key) :
    (executor.longPress key).ChecksFirst does harmless fails := by
  cases key with
  | code | power => exact .sure (executor.device.longPressKey_madeOf untargeted _)
  | screenCenter => exact .sure (executor.device.longPressScreenCenter_madeOf untargeted)
  | _ => exact .checks (.fail (refuses _))

theorem wait_checksFirst (untargeted : ∀ event, event.target? = none → does event)
    (refuses : ∀ description, fails (.invalidValue description)) (seconds : String) :
    (wait seconds).ChecksFirst does harmless fails := by
  rw [wait]
  split
  · exact .sure (.pause (untargeted _ rfl))
  · exact .checks (.fail (refuses _))

theorem clickFound_checksFirst (all : ∀ event, does event) (found : Option Element)
    (optional : Bool) (missing : String)
    (absent : optional = false → fails (.missingElement missing)) :
    (executor.clickFound found optional missing).ChecksFirst does harmless fails := by
  cases found with
  | some target => exact .sure (executor.device.clickAndWait_madeOf all target)
  | none =>
      cases optional with
      | true => exact .checks (.pure _)
      | false => exact .checks (.fail (absent rfl))

theorem findByScrolling_madeOf (all : ∀ event, does event)
    (missing : ∀ description, fails (.missingElement description)) (element : Descriptor)
    (scroll : Scroll) : (executor.findByScrolling element scroll).MadeOf does fails := by
  apply Script.MadeOf.bind (executor.device.find_madeOf (fun _ _ => all _) _)
  intro found
  cases found with
  | some found => exact .pure _
  | none => exact executor.search.find_madeOf all missing _ _ _

/-- An action does harmless things only until nothing but a request can make it fail. -/
theorem perform_checksFirst (action : Action) :
    (executor.perform action).ChecksFirst action.MayDo action.Harmless action.MayRaise := by
  have looks : action.scroll? = none → ∀ event, Event.Looks event → action.Harmless event :=
    fun _ event looks _ => looks
  cases action with
  | command command =>
      refine .bind_sure (Device.runShellCommand_checksFirst ?_ command ?_) fun _ => .pure _
      · exact fun event quiet _ => quiet
      · exact fun blank description => .inr ⟨⟨command, rfl, blank⟩, description, rfl⟩
  | hasPackageInForeground package =>
      refine .checks (.bind (Device.hasPackageInForeground_madeOf ?_ package ?_) fun _ => ?_)
      · exact looks rfl
      · exact fun blank description => .inr ⟨⟨package, rfl, blank⟩, description, rfl⟩
      · exact .ite (fun _ => .pure _) fun _ => .fail (.inl rfl)
  | hasElementInForeground element =>
      refine .checks (.bind (executor.device.hasElement_madeOf (looks rfl) _) fun _ => ?_)
      exact .ite (fun _ => .pure _) fun _ => .fail (.inl ⟨rfl, by simp [Action.kind]⟩)
  | click element optional =>
      refine .bind (executor.device.find_madeOf (looks rfl) _) fun found => ?_
      refine executor.clickFound_checksFirst ?_ found optional _ ?_
      · simp [Action.MayDo, Action.handlesElements]
      · rintro rfl
        exact .inl ⟨rfl, by simp [Action.kind]⟩
  | longClick element =>
      refine .bind (executor.device.find_madeOf (looks rfl) _) fun found => ?_
      cases found with
      | none => exact .checks (.fail (.inl ⟨rfl, by simp [Action.kind]⟩))
      | some target =>
          refine executor.device.longClick_checksFirst ?_ (fun _ => .inl ?_) target
          · simp [Action.MayDo, Action.handlesElements]
          · simp [TaskKind.MayRaise, Action.kind]
  | press key =>
      have invalid : ∀ description, (Action.press key).MayRaise (.invalidValue description) :=
        fun _ => .inl (.inl rfl)
      have unsupported : ∀ description,
          (Action.press key).MayRaise (.unsupportedOperation description) :=
        fun _ => .inl (.inl rfl)
      rw [Executor.perform]
      cases named : Key.ofText key with
      | ok key => exact press_checksFirst (fun event quiet _ => quiet) unsupported key
      | error error => exact .checks (.fail (Key.of_ofText_error named invalid unsupported))
  | longPress key =>
      have invalid : ∀ description, (Action.longPress key).MayRaise (.invalidValue description) :=
        fun _ => .inl (.inr (.inl rfl))
      have unsupported : ∀ description,
          (Action.longPress key).MayRaise (.unsupportedOperation description) :=
        fun _ => .inl (.inr (.inl rfl))
      rw [Executor.perform]
      cases named : Key.ofText key with
      | ok key => exact executor.longPress_checksFirst (fun event quiet _ => quiet) unsupported key
      | error error => exact .checks (.fail (Key.of_ofText_error named invalid unsupported))
  | scrollToFindAndClick element scroll optional =>
      have missing : ∀ description, (Action.scrollToFindAndClick element scroll optional).MayRaise
          (.missingElement description) := by
        intro description
        cases optional <;> exact .inl ⟨rfl, by simp [Action.kind]⟩
      refine .bind (executor.findByScrolling_madeOf ?_ missing element scroll) fun found => ?_
      · simp [Action.Harmless, Action.scroll?]
      · refine executor.clickFound_checksFirst ?_ found optional _ fun _ => missing _
        simp [Action.MayDo, Action.handlesElements]
  | wait seconds =>
      refine wait_checksFirst (fun event quiet _ => quiet) (fun _ => .inl ?_) seconds
      simp [TaskKind.MayRaise, Action.kind]

theorem perform_madeOf (action : Action) :
    (executor.perform action).MadeOf action.MayDo action.MayRaise :=
  (executor.perform_checksFirst action).madeOf fun _ harmless => harmless.mayDo

/-- Whatever an action does, it does no more after a request that failed. -/
theorem perform_failsFast (action : Action) : FailsFast id (executor.perform action) :=
  (executor.perform_madeOf action).failsFast

/-- An action that is not about clicking or holding an element acts on none. -/
theorem perform_idle {action : Action} (noElement : action.handlesElements = false) :
    (executor.perform action).Idle :=
  (executor.perform_madeOf action).idle fun _ mayDo => mayDo noElement

end Executor

end Screenplay
