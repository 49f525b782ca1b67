import Screenplay.Device.Basic
import Screenplay.Proofs.Script.Course
import Screenplay.Proofs.Scrolling.ListDevice

/-!
# Settling

After a click, a held element, a held key and a held screen the screen is let settle, once
and as the last thing that is done, unless something has failed before.  After a key that
is pressed briefly it is not: pressing one is a single request, and nothing else.
-/

namespace Screenplay

variable {State : Type}

/-- The waits among events, in order. -/
def waits (events : List Event) : List Duration :=
  events.filterMap fun
    | .waited duration => some duration
    | .asked _ _ => none

@[simp] theorem waits_append (first second : List Event) :
    waits (first ++ second) = waits first ++ waits second :=
  List.filterMap_append

@[simp] theorem waits_map_waited (durations : List Duration) :
    waits (durations.map .waited) = durations := by
  rw [waits, List.filterMap_map]
  exact List.filterMap_some

/-- What is injected into a device. -/
inductive Injection where
  | click (element : Element)
  | hold (element : Element)
  | pressKey (code : UInt32)
  | holdKey (code : UInt32)
  | holdCenter

namespace Injection

/-- How long the screen is let settle afterwards, if it is. -/
def pauses (device : Device) : Injection → List Duration
  | .pressKey _ => []
  | _ => [device.settleDelay]

/-- The events by which something is injected. -/
inductive Made : Injection → List Event → Prop where
  | click (element : Element) : Made (.click element) [.asked (.click element) (.ok ())]
  | hold (element : Element) : Made (.hold element) [.asked (.longClick element) (.ok ())]
  | pressKey (code : UInt32) : Made (.pressKey code) [.asked (.pressKey code) (.ok ())]
  | holdKey (code : UInt32) (output : String) :
      Made (.holdKey code)
        [.asked (.shell ("input keyevent --longpress " ++ toString code.toNat)) (.ok output)]
  | holdCenter (bounds : Bounds) (output : String) :
      Made .holdCenter
        [.asked .screenBounds (.ok bounds),
          .asked (.shell (Device.holdCommand bounds.center)) (.ok output)]

theorem Made.waits_eq_nil {injection : Injection} {made : List Event}
    (isMade : injection.Made made) : waits made = [] := by
  cases isMade <;> rfl

end Injection

/-- The scripts that inject something. -/
inductive Device.Injects (device : Device) : Script Unit → Injection → Prop where
  | clickAndWait (element : Element) : Injects device (device.clickAndWait element) (.click element)
  | longClick (element : Element) : Injects device (device.longClick element) (.hold element)
  | pressKey (code : UInt32) : Injects device (Device.pressKey code) (.pressKey code)
  | pressPower : Injects device Device.pressPower (.pressKey Key.powerCode)
  | pressHome : Injects device Device.pressHome (.pressKey Key.homeCode)
  | pressBack : Injects device Device.pressBack (.pressKey Key.backCode)
  | longPressKey (code : UInt32) : Injects device (device.longPressKey code) (.holdKey code)
  | longPressPower : Injects device device.longPressPower (.holdKey Key.powerCode)
  | longPressScreenCenter : Injects device device.longPressScreenCenter .holdCenter

namespace Device

variable {device : Device} {injection : Injection} {script : Script Unit} {events : List Event}
  {result : Except RunError Unit}

/-- An injection has failed before it came to a wait, or it was made and then waited for. -/
inductive Settles (device : Device) (injection : Injection) :
    List Event → Except RunError Unit → Prop where
  | failed {events : List Event} (error : RunError) (hasty : waits events = []) :
      Settles device injection events (.error error)
  | settled {made : List Event} (isMade : injection.Made made) :
      Settles device injection (made ++ (injection.pauses device).map .waited) (.ok ())

theorem Settles.waits_of_error {error : RunError}
    (settles : device.Settles injection events (.error error)) : waits events = [] := by
  cases settles with
  | failed _ hasty => exact hasty

theorem Settles.exists_made (settles : device.Settles injection events (.ok ())) :
    ∃ made, injection.Made made ∧ events = made ++ (injection.pauses device).map .waited := by
  cases settles with
  | settled isMade => exact ⟨_, isMade, rfl⟩

theorem course_settle_iff :
    device.settle.Course events result ↔
      events = [.waited device.settleDelay] ∧ result = .ok () := by
  constructor
  · intro course
    cases course with
    | wait rest =>
        obtain ⟨rfl, rfl⟩ := Script.course_pure_iff.1 rest
        exact ⟨rfl, rfl⟩
  · rintro ⟨rfl, rfl⟩
    exact .wait (Script.course_pure_iff.2 ⟨rfl, rfl⟩)

/-- After some events without a wait there is a request, after which the screen is let
settle. -/
theorem settles_of_perform (before : List Event) {request : Request}
    (hasty : waits before = []) (slow : injection.pauses device = [device.settleDelay])
    (isMade : ∀ answer, injection.Made (before ++ [.asked request (.ok answer)]))
    (course : (Script.perform request >>= fun _ => device.settle).Course events result) :
    device.Settles injection (before ++ events) result := by
  rcases course.of_bind with ⟨error, failed, rfl⟩ | ⟨answer, first, later, done, rest, rfl⟩
  · rw [Script.course_perform_iff.1 failed]
    exact .failed error (by rw [waits_append, hasty]; rfl)
  · obtain ⟨rfl, rfl⟩ := course_settle_iff.1 rest
    have settled : device.Settles injection _ (.ok ()) := .settled (isMade answer)
    rw [slow] at settled
    rw [Script.course_perform_iff.1 done, ← List.append_assoc]
    exact settled

theorem settles_of_pressKey {code : UInt32} (course : (pressKey code).Course events result) :
    device.Settles (.pressKey code) events result := by
  rw [Script.course_perform_iff.1 course]
  cases result with
  | error error => exact .failed error rfl
  | ok answer => exact .settled (.pressKey code)

/-- Whatever a device answers, an injection fails or is made and then waited for. -/
theorem Injects.settles (injects : device.Injects script injection)
    (course : script.Course events result) : device.Settles injection events result := by
  cases injects with
  | clickAndWait element => exact settles_of_perform [] rfl rfl (fun _ => .click element) course
  | longClick element =>
      rw [Device.longClick] at course
      split at course
      next => exact settles_of_perform [] rfl rfl (fun _ => .hold element) course
      next =>
        obtain ⟨rfl, rfl⟩ := Script.course_fail_iff.1 course
        exact .failed _ rfl
  | pressKey code => exact settles_of_pressKey course
  | pressPower => exact settles_of_pressKey course
  | pressHome => exact settles_of_pressKey course
  | pressBack => exact settles_of_pressKey course
  | longPressKey code => exact settles_of_perform [] rfl rfl (.holdKey code) course
  | longPressPower => exact settles_of_perform [] rfl rfl (.holdKey Key.powerCode) course
  | longPressScreenCenter =>
      rcases course.of_bind with ⟨error, failed, rfl⟩ | ⟨bounds, first, later, done, rest, rfl⟩
      · rw [Script.course_perform_iff.1 failed]
        exact .failed error rfl
      · rw [Script.course_perform_iff.1 done]
        exact settles_of_perform [_] rfl rfl (.holdCenter bounds) rest

/-- On every engine an injection that ends well is followed by one wait for the screen to
settle, which is the last event, unless a key was pressed briefly: then there is no event
but the request to press it.  An injection that fails is not waited for. -/
theorem injection_settles (injects : device.Injects script injection) (engine : Engine State)
    (state : State) :
    let result := (script.run engine state).1
    let events := script.events engine state
    (∀ error, result = .error error → waits events = []) ∧
      (result = .ok () →
        waits events = injection.pauses device ∧
          ∃ made, injection.Made made ∧
            events = made ++ (injection.pauses device).map .waited) := by
  intro result events
  have settles : device.Settles injection events result :=
    injects.settles (Script.course_run engine script state)
  refine ⟨fun error failed => (failed ▸ settles).waits_of_error, fun ended => ?_⟩
  obtain ⟨made, isMade, split⟩ := (ended ▸ settles).exists_made
  refine ⟨?_, made, isMade, split⟩
  rw [split, waits_append, isMade.waits_eq_nil, waits_map_waited, List.nil_append]

/-- The centre of the screen is held by its command, and waited for once. -/
theorem injection_settles_holdCenter :
    let device : Device := { settleDelay := .ofSeconds 3 }
    let engine := ({} : ListDevice).engine
    device.Injects device.longPressScreenCenter .holdCenter ∧
      (device.longPressScreenCenter.run engine {}).1 = .ok () ∧
      waits (device.longPressScreenCenter.events engine {}) = [.ofSeconds 3] ∧
      ∃ before, device.longPressScreenCenter.events engine {} =
        before ++ [.asked (.shell "input swipe 540 960 540 960 5000") (.ok ""),
          .waited (.ofSeconds 3)] := by
  intro device engine
  have injects : device.Injects device.longPressScreenCenter .holdCenter := .longPressScreenCenter
  have ended : (device.longPressScreenCenter.run engine {}).1 = .ok () := rfl
  obtain ⟨-, settled⟩ := injection_settles injects engine {}
  exact ⟨injects, ended, (settled ended).1, [.asked .screenBounds (.ok ⟨0, 0, 1080, 1920⟩)], rfl⟩

/-- After the home key was pressed, nothing is waited for. -/
theorem pressHome_does_not_settle :
    let device : Device := {}
    let engine := ({} : ListDevice).engine
    (pressHome.run engine {}).1 = .ok () ∧
      ¬ ∃ before, pressHome.events engine {} = before ++ [.waited device.settleDelay] := by
  refine ⟨rfl, ?_⟩
  rintro ⟨before, ends⟩
  have last := congrArg List.getLast? ends
  rw [List.getLast?_concat] at last
  cases last

end Device

end Screenplay
