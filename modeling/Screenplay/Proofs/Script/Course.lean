import Screenplay.Device.Basic
import Screenplay.Proofs.Script.Sequence

/-!
# Courses of scripts

A course of a script is what can happen when it is carried out, whatever the device
is: some answer to each of its requests in turn, and what the script then ends with.
Every run on an engine is a course.  The answers are part of the events, so the events
of a course determine its result.

Some requests act on an element.  Acting is grounded where it follows directly upon a
look-up that found just this element, and where the element is fit for it.  Grounded
courses put together are grounded again.
-/

namespace Screenplay

variable {State α β : Type}

namespace Script

/-- Answers to the requests of a script in turn, and what it ends with. -/
inductive Course {α : Type} : Script α → List Event → Except RunError α → Prop where
  | done (result : Except RunError α) : Course (.done result) [] result
  | ask {request : Request} {next : Except RunError request.Answer → Script α}
      {answer : Except RunError request.Answer} {events : List Event}
      {result : Except RunError α} (rest : Course (next answer) events result) :
      Course (.ask request next) (.asked request answer :: events) result
  | wait {duration : Duration} {next : Script α} {events : List Event}
      {result : Except RunError α} (rest : Course next events result) :
      Course (.wait duration next) (.waited duration :: events) result

theorem course_run (engine : Engine State) (script : Script α) (state : State) :
    script.Course (script.events engine state) (script.run engine state).1 := by
  induction script generalizing state with
  | done result => exact .done result
  | ask request next ih => exact .ask (ih _ _)
  | wait duration next ih => exact .wait (ih _)

/-- What is answered in a run is an answer of the engine. -/
theorem exists_answer_of_mem {engine : Engine State} {script : Script α} {state : State}
    {request : Request} {answer : Except RunError request.Answer}
    (happened : .asked request answer ∈ script.events engine state) :
    ∃ middle, (engine.answer request middle).1 = answer := by
  induction script generalizing state with
  | done => simp [events] at happened
  | ask asked next ih =>
      simp only [events, List.mem_cons, Event.asked.injEq] at happened
      rcases happened with ⟨rfl, same⟩ | later
      · exact ⟨state, (eq_of_heq same).symm⟩
      · exact ih _ later
  | wait duration next ih =>
      simp only [events, List.mem_cons, reduceCtorEq, false_or] at happened
      exact ih happened

/-- The answer of the last request of a run leaves the engine as the run does. -/
theorem exists_answer_of_last {engine : Engine State} {script : Script α} {state : State}
    {before : List Event} {request : Request} {answer : Except RunError request.Answer}
    (last : script.events engine state = before ++ [.asked request answer]) :
    ∃ middle, engine.answer request middle = (answer, (script.run engine state).2) := by
  induction script generalizing state before with
  | done => simp [events] at last
  | ask asked next ih =>
      simp only [events, run] at last ⊢
      cases before with
      | nil =>
          simp only [List.nil_append, List.cons.injEq, Event.asked.injEq] at last
          obtain ⟨⟨rfl, same⟩, ended⟩ := last
          cases same
          refine ⟨state, ?_⟩
          cases rest : next (engine.answer asked state).1 with
          | done => rfl
          | ask => simp [rest, events] at ended
          | wait => simp [rest, events] at ended
      | cons event earlier =>
          rw [List.cons_append, List.cons.injEq] at last
          exact ih _ last.2
  | wait duration next ih =>
      simp only [events, run] at last ⊢
      cases before with
      | nil => simp at last
      | cons event earlier =>
          rw [List.cons_append, List.cons.injEq] at last
          exact ih last.2

/-! ## Courses of combinations -/

/-- A course of two scripts in sequence ends in the first with an error, or goes on in
the second with a result of the first. -/
theorem Course.of_bind {script : Script α} {next : α → Script β} {events : List Event}
    {result : Except RunError β} (course : (script >>= next).Course events result) :
    (∃ error, script.Course events (.error error) ∧ result = .error error) ∨
      ∃ value first later, script.Course first (.ok value) ∧
        (next value).Course later result ∧ events = first ++ later := by
  change (script.bind next).Course events result at course
  induction script generalizing events with
  | done ended =>
      cases ended with
      | error error =>
          cases course
          exact .inl ⟨error, .done _, rfl⟩
      | ok value => exact .inr ⟨value, [], events, .done _, course, rfl⟩
  | ask request continue_ ih =>
      cases course with
      | ask rest =>
          rcases ih _ rest with ⟨error, failed, same⟩ | ⟨value, first, later, before, after, rfl⟩
          · exact .inl ⟨error, .ask failed, same⟩
          · exact .inr ⟨value, _ :: first, later, .ask before, after, rfl⟩
  | wait duration rest ih =>
      cases course with
      | wait rest =>
          rcases ih rest with ⟨error, failed, same⟩ | ⟨value, first, later, before, after, rfl⟩
          · exact .inl ⟨error, .wait failed, same⟩
          · exact .inr ⟨value, _ :: first, later, .wait before, after, rfl⟩

theorem Course.bind {script : Script α} {next : α → Script β} {value : α}
    {first later : List Event} {result : Except RunError β}
    (before : script.Course first (.ok value)) (after : (next value).Course later result) :
    (script >>= next).Course (first ++ later) result := by
  change (script.bind next).Course (first ++ later) result
  induction script generalizing first with
  | done ended =>
      cases before
      exact after
  | ask request continue_ ih =>
      cases before with
      | ask rest => exact .ask (ih _ rest)
  | wait duration rest ih =>
      cases before with
      | wait rest => exact .wait (ih rest)

theorem Course.bind_error {script : Script α} {events : List Event} {error : RunError}
    (failed : script.Course events (.error error)) (next : α → Script β) :
    (script >>= next).Course events (.error error) := by
  change (script.bind next).Course events (.error error)
  induction script generalizing events with
  | done ended =>
      cases failed
      exact .done _
  | ask request continue_ ih =>
      cases failed with
      | ask rest => exact .ask (ih _ rest)
  | wait duration rest ih =>
      cases failed with
      | wait rest => exact .wait (ih rest)

theorem Course.of_mapError {change : RunError → RunError} {script : Script α} {events : List Event}
    {result : Except RunError α} (course : (script.mapError change).Course events result) :
    ∃ ended, script.Course events ended ∧ result = ended.mapError change := by
  induction script generalizing events with
  | done ended =>
      cases course
      exact ⟨ended, .done _, rfl⟩
  | ask request continue_ ih =>
      cases course with
      | ask rest =>
          obtain ⟨ended, before, same⟩ := ih _ rest
          exact ⟨ended, .ask before, same⟩
  | wait duration next ih =>
      cases course with
      | wait rest =>
          obtain ⟨ended, before, same⟩ := ih rest
          exact ⟨ended, .wait before, same⟩

/-- The events of a course determine its result. -/
theorem Course.unique {script : Script α} {events : List Event} {result other : Except RunError α}
    (course : script.Course events result) (alsoCourse : script.Course events other) :
    result = other := by
  induction course with
  | done result =>
      cases alsoCourse
      rfl
  | ask rest ih =>
      cases alsoCourse with
      | ask otherRest => exact ih otherRest
  | wait rest ih =>
      cases alsoCourse with
      | wait otherRest => exact ih otherRest

@[simp] theorem course_pure_iff {value : α} {events : List Event} {result : Except RunError α} :
    (pure value : Script α).Course events result ↔ events = [] ∧ result = .ok value := by
  constructor
  · intro course
    cases course
    exact ⟨rfl, rfl⟩
  · rintro ⟨rfl, rfl⟩
    exact .done _

@[simp] theorem course_fail_iff {error : RunError} {events : List Event}
    {result : Except RunError α} :
    (fail error : Script α).Course events result ↔ events = [] ∧ result = .error error := by
  constructor
  · intro course
    cases course
    exact ⟨rfl, rfl⟩
  · rintro ⟨rfl, rfl⟩
    exact .done _

@[simp] theorem course_perform_iff {request : Request} {events : List Event}
    {result : Except RunError request.Answer} :
    (perform request).Course events result ↔ events = [.asked request result] := by
  constructor
  · intro course
    cases course with
    | ask rest =>
        cases rest
        rfl
  · rintro rfl
    exact .ask (.done _)

end Script

/-! ## Acting on elements -/

/-- The element that a request acts on. -/
def Request.target? : Request → Option Element
  | .click element | .longClick element | .scroll element _ _ => some element
  | _ => none

/-- The element that is acted on in an event. -/
def Event.target? : Event → Option Element
  | .asked request _ => request.target?
  | .waited _ => none

/-- An event is a look-up that found an element for a selector. -/
def Event.Finds (selector : Selector) (element : Element) (event : Event) : Prop :=
  ∃ root timeout, event = .asked (.find selector root timeout) (.ok (some element))

/-- The last event found an element for a selector. -/
def FoundLast (events : List Event) (selector : Selector) (element : Element) : Prop :=
  ∃ earlier lookUp, events = earlier ++ [lookUp] ∧ lookUp.Finds selector element

/-- What an event acts on was found by the event right before, for a selector with which
it is fit for what is asked. -/
def Event.Grounded (fits : Selector → Element → Request → Prop) (before : List Event)
    (event : Event) : Prop :=
  ∀ request answer element, event = .asked request answer → request.target? = some element →
    ∃ selector, FoundLast before selector element ∧ fits selector element request

/-- Every event is grounded. -/
def Grounded (fits : Selector → Element → Request → Prop) (events : List Event) : Prop :=
  ∀ before event after, events = before ++ event :: after → event.Grounded fits before

/-- No event acts on anything. -/
def Quiet (events : List Event) : Prop :=
  ∀ event ∈ events, event.target? = none

@[simp] theorem Event.target?_asked (request : Request)
    (answer : Except RunError request.Answer) :
    (Event.asked request answer).target? = request.target? := rfl

@[simp] theorem Event.target?_waited (duration : Duration) :
    (Event.waited duration).target? = none := rfl

@[simp] theorem quiet_nil : Quiet [] := by
  simp [Quiet]

@[simp] theorem quiet_cons {event : Event} {events : List Event} :
    Quiet (event :: events) ↔ event.target? = none ∧ Quiet events := by
  simp [Quiet]

@[simp] theorem quiet_append {first second : List Event} :
    Quiet (first ++ second) ↔ Quiet first ∧ Quiet second := by
  simp [Quiet, or_imp, forall_and]

theorem FoundLast.after {events : List Event} {selector : Selector} {element : Element}
    (found : FoundLast events selector element) (more : List Event) :
    FoundLast (more ++ events) selector element := by
  obtain ⟨earlier, lookUp, rfl, finds⟩ := found
  exact ⟨more ++ earlier, lookUp, (List.append_assoc ..).symm, finds⟩

variable {fits : Selector → Element → Request → Prop}

theorem Quiet.grounded {events : List Event} (quiet : Quiet events) : Grounded fits events := by
  rintro before event after split request answer element rfl acts
  have idle : request.target? = none := quiet (.asked request answer) (by simp [split])
  rw [idle] at acts
  cases acts

theorem Grounded.mono {weaker : Selector → Element → Request → Prop} {events : List Event}
    (grounded : Grounded fits events)
    (implies : ∀ selector element request, fits selector element request →
      weaker selector element request) : Grounded weaker events := by
  intro before event after split request answer element same acts
  obtain ⟨selector, found, fit⟩ := grounded before event after split request answer element same acts
  exact ⟨selector, found, implies _ _ _ fit⟩

/-- What is grounded remains so after more events. -/
theorem Event.Grounded.after {before : List Event} {event : Event}
    (grounded : event.Grounded fits before) (more : List Event) :
    event.Grounded fits (more ++ before) := by
  intro request answer element same acts
  obtain ⟨selector, found, fit⟩ := grounded request answer element same acts
  exact ⟨selector, found.after more, fit⟩

theorem Grounded.append {first second : List Event} (firstGrounded : Grounded fits first)
    (secondGrounded : Grounded fits second) : Grounded fits (first ++ second) := by
  intro before event after split
  rcases event_of_append split with ⟨rest, inFirst⟩ | ⟨between, rfl, inSecond⟩
  · exact firstGrounded before event rest inFirst
  · exact (secondGrounded between event after inSecond).after first

theorem Grounded.flatMap {values : List α} {image : α → List Event}
    (grounded : ∀ value ∈ values, Grounded fits (image value)) :
    Grounded fits (values.flatMap image) := by
  induction values with
  | nil => exact quiet_nil.grounded
  | cons value rest ih =>
      rw [List.flatMap_cons]
      refine (grounded value (List.mem_cons_self ..)).append (ih fun other member => ?_)
      exact grounded other (List.mem_cons_of_mem _ member)

/-- An action may follow upon the look-up that found its element. -/
theorem Grounded.act {events after : List Event} {selector : Selector} {element : Element}
    {request : Request} {answer : Except RunError request.Answer}
    (grounded : Grounded fits events) (found : FoundLast events selector element)
    (acts : request.target? = some element) (fit : fits selector element request)
    (quiet : Quiet after) : Grounded fits (events ++ .asked request answer :: after) := by
  rintro before event rest split asked answered other rfl same
  rcases event_of_append split with ⟨rest, inFirst⟩ | ⟨between, rfl, later⟩
  · exact grounded before _ rest inFirst asked answered other rfl same
  · cases between with
    | nil =>
        rw [List.nil_append, List.cons.injEq, Event.asked.injEq] at later
        obtain ⟨⟨rfl, -⟩, -⟩ := later
        obtain rfl : element = other := Option.some.inj (acts.symm.trans same)
        rw [List.append_nil]
        exact ⟨selector, found, fit⟩
    | cons first between =>
        rw [List.cons_append, List.cons.injEq] at later
        have idle : asked.target? = none := quiet (.asked asked answered) (by simp [later.2])
        rw [idle] at same
        cases same

/-! ## Scripts that act on nothing -/

namespace Script

/-- Nothing is acted on in any course of a script. -/
def Idle (script : Script α) : Prop :=
  ∀ ⦃events result⦄, script.Course events result → Quiet events

namespace Idle

theorem bind {script : Script α} {next : α → Script β} (first : script.Idle)
    (rest : ∀ value, (next value).Idle) : (script >>= next).Idle := by
  intro events result course
  rcases course.of_bind with ⟨error, failed, -⟩ | ⟨value, earlier, later, before, after, rfl⟩
  · exact first failed
  · exact quiet_append.2 ⟨first before, rest value after⟩

theorem pure (value : α) : (Pure.pure value : Script α).Idle := by
  intro events result course
  simp [(course_pure_iff.1 course).1]

theorem pause (duration : Duration) : (Script.pause duration).Idle := by
  intro events result course
  cases course with
  | wait rest => simp [(course_pure_iff.1 rest).1]

theorem perform {request : Request} (acts : request.target? = none) :
    (Script.perform request).Idle := by
  intro events result course
  simp [course_perform_iff.1 course, acts]

end Idle

/-- A request that is followed by nothing that acts is the first event. -/
theorem Course.of_perform_bind {request : Request} {next : request.Answer → Script β}
    {events : List Event} {result : Except RunError β} (idle : ∀ answer, (next answer).Idle)
    (course : (Script.perform request >>= next).Course events result) :
    ∃ answer rest, events = .asked request answer :: rest ∧ Quiet rest := by
  rcases course.of_bind with ⟨error, failed, -⟩ | ⟨answer, first, later, done, rest, rfl⟩
  · exact ⟨_, [], course_perform_iff.1 failed, quiet_nil⟩
  · rw [course_perform_iff.1 done]
    exact ⟨_, later, rfl, idle _ rest⟩

end Script

end Screenplay
