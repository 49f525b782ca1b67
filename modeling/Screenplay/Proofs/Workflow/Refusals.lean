import Screenplay.Proofs.Workflow.Grounded
import Screenplay.Proofs.Workflow.Means

/-!
# Refusals

An action that ends with an error although the device has answered every request is
refused: for what it says, or for what was found or not found.  Up to then it has only
looked at the device.

Only an action that scrolls may have moved something by then, since any step can lack what
the step needs.  All that it has done, other than looking, is to make steps: clicks on the
buttons by which it scrolls, swipes, and the waits after these.
-/

namespace Screenplay

variable {State : Type}

namespace Search

/-- What is done in a step other than looking, in view of what was done in it before: to
click a button or to swipe, once it was found, and to wait after that. -/
inductive Moves (scroll : Scroll) : List Event → Event → Prop where
  | click {before : List Event} {selector : Selector} {button : Element}
      {answer : Except RunError Unit} (found : FoundLast before selector button) (wanted : scroll.HasButton selector)
      (enabled : button.enabled = true) : Moves scroll before (.asked (.click button) answer)
  | swipe {before : List Event} {selector : Selector} {container : Element} {axis : Axis}
      {element : Descriptor} {direction : Direction} {answer : Except RunError Unit}
      (found : FoundLast before selector container) (action : scroll.action = .gesture axis element)
      (along : direction = axis.forward ∨ direction = axis.backward) :
      Moves scroll before (.asked (.scroll container direction scroll.margin) answer)
  | settle {before : List Event} {request : Request} {answer : Except RunError request.Answer}
      (moved : Moves scroll before (.asked request answer)) :
      Moves scroll (before ++ [.asked request answer])
        (.waited (.ofSeconds scroll.waitSeconds.toNat))

/-- An event belongs to a step of a search and is one of those that move something. -/
def InStep (search : Search) (scroll : Scroll) (description : String) (before : List Event)
    (event : Event) : Prop :=
  ∃ way report earlier inner rest,
    (search.step scroll way description).Course (inner ++ event :: rest) report ∧
      before = earlier ++ inner ∧ Moves scroll inner event

/-- Every event of a step is a look or moves something. -/
def StepsOnly (scroll : Scroll) (events : List Event) : Prop :=
  ∀ before event after, events = before ++ event :: after → event.Looks ∨ Moves scroll before event

variable {search : Search} {scroll : Scroll} {target : Selector} {way : Way}
  {description : String} {events : List Event}

/-! ## Steps -/

theorem stepsOnly_of_looks (looks : ∀ event ∈ events, event.Looks) : StepsOnly scroll events := by
  rintro before event after rfl
  exact .inl (looks event (by simp))

theorem StepsOnly.concat (stepsOnly : StepsOnly scroll events) (event : Event)
    (last : event.Looks ∨ Moves scroll events event) : StepsOnly scroll (events ++ [event]) := by
  intro before other after split
  rcases event_of_append split with ⟨rest, earlier⟩ | ⟨between, rfl, isLast⟩
  · exact stepsOnly before other rest earlier
  · cases between with
    | nil =>
        rw [List.nil_append, List.cons.injEq] at isLast
        rw [List.append_nil, ← isLast.1]
        exact last
    | cons => simp at isLast

theorem course_observe {before : String} {result : Except RunError Bool}
    (course : (observe scroll before).Course events result) :
    ∃ shown, events = [.waited (.ofSeconds scroll.waitSeconds.toNat), .asked .dump shown] := by
  cases course with
  | @wait _ _ later _ rest =>
      have rest : (Device.hierarchy >>= fun after => pure (before != after)).Course later result :=
        rest
      rcases rest.of_bind with ⟨error, failed, -⟩ | ⟨shown, first, last, shows, ended, rfl⟩
      · exact ⟨_, by rw [Script.course_perform_iff.1 failed]⟩
      · rw [Script.course_perform_iff.1 shows, (Script.course_pure_iff.1 ended).1]
        exact ⟨.ok shown, rfl⟩

/-- Once a step has looked for what it needs, it acts on it and waits. -/
theorem stepsOnly_of_act {request : Request} {shown : String} {before : List Event}
    {result : Except RunError Bool} (looks : ∀ event ∈ before, event.Looks)
    (moves : ∀ answer, Moves scroll before (.asked request answer))
    (course : (Script.perform request >>= fun _ => observe scroll shown).Course events result) :
    StepsOnly scroll (before ++ events) := by
  have acts : ∀ answer, StepsOnly scroll (before ++ [.asked request answer]) :=
    fun answer => (stepsOnly_of_looks looks).concat _ (.inr (moves answer))
  rcases course.of_bind with ⟨error, failed, -⟩ | ⟨answer, first, later, acted, rest, rfl⟩
  · rw [Script.course_perform_iff.1 failed]
    exact acts _
  · obtain ⟨after, rfl⟩ := course_observe rest
    rw [Script.course_perform_iff.1 acted]
    have settled := (acts (.ok answer)).concat _ (.inr (.settle (moves _)))
    have shown := settled.concat (.asked .dump after) (.inl trivial)
    simpa using shown

theorem step_stepsOnly {report : Except RunError Bool}
    (course : (search.step scroll way description).Course events report) :
    StepsOnly scroll events := by
  have dumps : Device.hierarchy.MadeOf Event.Looks (fun _ => True) :=
    Device.hierarchy_madeOf fun _ looks => looks
  -- Up to the only request that moves something there are looks, however they are answered.
  rcases course.of_bind with ⟨error, failed, -⟩ | ⟨shown, dump, later, dumped, rest, rfl⟩
  · exact stepsOnly_of_looks fun event => dumps.does_of_mem failed
  have dumpLooks : ∀ event ∈ dump, event.Looks := fun event => dumps.does_of_mem dumped
  cases action : scroll.action with
  | buttons forward backward =>
      have looks : ∀ wanted,
          (search.button wanted description).MadeOf Event.Looks (fun _ => True) :=
        fun wanted => search.button_madeOf (fun _ looks => looks) (fun _ => trivial) wanted _
      simp only [action] at rest
      rcases rest.of_bind with ⟨error, failed, -⟩ | ⟨button, look, last, looked, stepped, rfl⟩
      · exact stepsOnly_of_looks
          (List.forall_mem_append.2 ⟨dumpLooks, fun _ => (looks _).does_of_mem failed⟩)
      · have before := List.forall_mem_append.2
          ⟨dumpLooks, fun event => (looks _).does_of_mem looked⟩
        rw [← List.append_assoc]
        split at stepped
        next enabled =>
          refine stepsOnly_of_act before (fun answer => ?_) stepped
          have found := ((course_button looked).2 button rfl).after dump
          exact .click found ⟨forward, backward, action, by cases way <;> simp⟩ enabled
        next =>
          obtain ⟨rfl, -⟩ := Script.course_pure_iff.1 stepped
          rw [List.append_nil]
          exact stepsOnly_of_looks before
  | gesture axis element =>
      have looks : (search.container element description).MadeOf Event.Looks (fun _ => True) :=
        search.container_madeOf (fun _ looks => looks) (fun _ => trivial) element _
      simp only [action] at rest
      rcases rest.of_bind with ⟨error, failed, -⟩ | ⟨inner, look, last, looked, stepped, rfl⟩
      · exact stepsOnly_of_looks
          (List.forall_mem_append.2 ⟨dumpLooks, fun _ => looks.does_of_mem failed⟩)
      · have before := List.forall_mem_append.2 ⟨dumpLooks, fun event => looks.does_of_mem looked⟩
        rw [← List.append_assoc]
        refine stepsOnly_of_act before (fun answer => ?_) stepped
        obtain ⟨selector, found, -⟩ := (course_container looked).2 inner rfl
        exact .swipe (found.after dump) action (by cases way <;> simp)

/-! ## Searches -/

theorem InStep.after {before : List Event} {event : Event}
    (inStep : search.InStep scroll description before event) (more : List Event) :
    search.InStep scroll description (more ++ before) event := by
  obtain ⟨way, report, earlier, inner, rest, course, rfl, moves⟩ := inStep
  exact ⟨way, report, more ++ earlier, inner, rest, course, (List.append_assoc ..).symm, moves⟩

/-- Every event of a search is a look or belongs to a step. -/
theorem looks_or_inStep_of_find {result : Except RunError (Option Element)}
    {before after : List Event} {event : Event}
    (course : (search.find scroll target description).Course (before ++ event :: after) result) :
    event.Looks ∨ search.InStep scroll description before event := by
  obtain ⟨parts, isMade, -, -⟩ := course_find course
  obtain ⟨part, member, earlier, inner, rest, inPart, rfl⟩ :=
    event_of_flatMap isMade.events_eq.symm
  cases part with
  | look answer =>
      have isLook : event = search.device.lookUp target answer := by
        have member : event ∈ Part.events search target (.look answer) := by rw [inPart]; simp
        exact List.mem_singleton.1 member
      exact .inl (isLook ▸ trivial)
  | step way report made =>
      have happens : (search.step scroll way description).Course made report :=
        isMade.happen _ member
      have same : made = inner ++ event :: rest := inPart
      rw [same] at happens
      refine (step_stepsOnly happens inner event rest rfl).imp_right fun moves => ?_
      exact ⟨way, report, earlier, inner, rest, happens, rfl, moves⟩

end Search

namespace Executor

variable {executor : Executor} {engine : Engine State} {state : State} {action : Action}
  {events before after : List Event} {event : Event} {error : RunError}

theorem looks_or_inStep_of_findByScrolling {sought : Descriptor} {scroll : Scroll}
    {result : Except RunError (Option Element)}
    (course : (executor.findByScrolling sought scroll).Course (before ++ event :: after) result) :
    event.Looks ∨ executor.search.InStep scroll ("find " ++ sought.display) before event := by
  have looks : (executor.device.find sought.query).MadeOf Event.Looks (fun _ => True) :=
    executor.device.find_madeOf (fun _ looks => looks) _
  rcases course.of_bind with ⟨_, failed, -⟩ | ⟨found, look, later, looked, rest, split⟩
  · exact .inl (looks.does_of_mem failed (by simp))
  rcases event_of_append split.symm with ⟨rest, inLook⟩ | ⟨between, rfl, inLater⟩
  · exact .inl (looks.does_of_mem looked (by simp [inLook]))
  · cases found with
    | some target =>
        obtain ⟨rfl, -⟩ := Script.course_pure_iff.1 rest
        simp at inLater
    | none =>
        rw [inLater] at rest
        exact (Search.looks_or_inStep_of_find rest).imp_right fun inStep => inStep.after look

/-- What is clicked at last has been found, so that only the search can have failed. -/
theorem refused_of_scroll {sought : Descriptor} {scroll : Scroll} {optional : Bool}
    (course : (executor.perform (.scrollToFindAndClick sought scroll optional)).Course events
      (.error error))
    (answered : ∀ request failure, .asked request (.error failure) ∉ events) :
    ∃ result, (executor.findByScrolling sought scroll).Course events result := by
  rcases course.of_bind with ⟨_, failed, -⟩ | ⟨found, search, later, searched, rest, rfl⟩
  · exact ⟨_, failed⟩
  · cases found with
    | none =>
        refine ⟨.ok none, ?_⟩
        cases optional with
        | true => cases (Script.course_pure_iff.1 rest).2
        | false =>
            rw [(Script.course_fail_iff.1 rest).1, List.append_nil]
            exact searched
    | some target =>
        -- A click has no errors of its own.
        have sure : (executor.device.clickAndWait target).MadeOf (fun _ => True) fun _ => False :=
          executor.device.clickAndWait_madeOf (fun _ => trivial) target
        refine (sure.failsWith (fun _ never => never) (fun _ never => never) rest ?_).elim
        intro request failure member
        exact answered request failure (List.mem_append_right _ member)

/-- An action that ends with an error although every request was answered has only looked at
the device, or else it has also made steps by which it scrolls. -/
theorem perform_refuses_untouched (executor : Executor) (engine : Engine State) (action : Action)
    (state : State) {error : RunError}
    (failed : ((executor.perform action).run engine state).1 = .error error)
    (answered : ∀ request failure,
      .asked request (.error failure) ∉ (executor.perform action).events engine state) :
    ∀ before event after, (executor.perform action).events engine state = before ++ event :: after →
      event.Looks ∨ ∃ sought scroll optional,
        action = .scrollToFindAndClick sought scroll optional ∧
        executor.search.InStep scroll ("find " ++ sought.display) before event := by
  intro before event after happened
  have course := Script.course_run engine (executor.perform action) state
  rw [failed] at course
  have harmless := (executor.perform_checksFirst action).harmless_of_error course answered event
    (by simp [happened])
  cases action with
  | scrollToFindAndClick sought scroll optional =>
      obtain ⟨result, searched⟩ := refused_of_scroll course answered
      rw [happened] at searched
      exact (looks_or_inStep_of_findByScrolling searched).imp_right fun inStep =>
        ⟨sought, scroll, optional, rfl, inStep⟩
  | _ => exact .inl (harmless rfl)

/-- A shelf that can be scrolled. -/
def shelf : Element :=
  { handle := "shelf", className := some "shelf", scrollable := true }

/-- An engine that shows a shelf with nothing on it. -/
def bareShelf : Engine Unit where
  answer
    | .find selector _ _, _ => (.ok ([shelf].find? selector.accepts), ())
    | .scroll _ _ _, _ => (.ok (), ())
    | .dump, _ => (.ok "shelf", ())
    | _, _ => (.error (.platform "out of order"), ())
  wait _ _ := ()

/-- A search of the shelf for something that is not on it. -/
def seekLost : Action :=
  let whole : Descriptor :=
    ⟨.className, "shelf", none, .className none "shelf", rfl, Descriptor.trimPackage_none, rfl⟩
  .scrollToFindAndClick (byText "lost" (by decide) (by decide)) ⟨.gesture .vertical whole, 10, 1⟩
    false

/-- The event is not a request that the device has refused. -/
def isAnswered : Event → Bool
  | .asked _ (.error _) => false
  | _ => true

/-- The shelf is scrolled before the search is given up. -/
theorem perform_refuses_untouched_bareShelf :
    let events := (perform {} seekLost).events bareShelf ()
    (∃ error, ((perform {} seekLost).run bareShelf ()).1 = .error error) ∧
      events = events.take 10 ++ .asked (.scroll shelf .down 10) (.ok ()) :: events.drop 11 ∧
      ∃ scroll description, Search.InStep {} scroll description (events.take 10)
        (.asked (.scroll shelf .down 10) (.ok ())) := by
  intro events
  have answered : ∀ request failure, .asked request (.error failure) ∉ events := by
    intro request failure member
    have every : events.all isAnswered = true := rfl
    cases List.all_eq_true.1 every _ member
  have swiped : events = events.take 10 ++ .asked (.scroll shelf .down 10) (.ok ()) ::
      events.drop 11 := rfl
  refine ⟨⟨_, rfl⟩, swiped, ?_⟩
  rcases perform_refuses_untouched {} bareShelf seekLost () rfl answered _ _ _ swiped with
    looks | ⟨_, scroll, _, -, inStep⟩
  · exact looks.elim
  · exact ⟨scroll, _, inStep⟩

end Executor

end Screenplay
