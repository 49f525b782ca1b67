import Screenplay.Proofs.Script.Course
import Screenplay.Workflow.Search

/-!
# The parts of a search

A search is made of looks for its target and of steps.  Whatever the device answers,
its steps back come before its steps forward, there are no more of either than the
limit says, and in each direction every step but the last has moved something.  A step
forward is made only as long as nothing has been found and every step forward has moved
something.

The result of a search is that of its last look.  If that is nothing, then the last step
forward has moved nothing or the limit is used up.  If a step ends with an error, so does the
search.
-/

namespace Screenplay

variable {State α β : Type}

namespace Device

/-- A look on the whole screen for what a selector means. -/
def lookUp (device : Device) (selector : Selector)
    (answer : Except RunError (Option Element)) : Event :=
  .asked (.find selector none (some device.findTimeout)) answer

@[simp] theorem target?_lookUp (device : Device) (selector : Selector)
    (answer : Except RunError (Option Element)) :
    (device.lookUp selector answer).target? = none := rfl

theorem lookUp_finds (device : Device) (selector : Selector) (element : Element) :
    (device.lookUp selector (.ok (some element))).Finds selector element :=
  ⟨_, _, rfl⟩

theorem course_find_iff {device : Device} {selector : Selector} {events : List Event}
    {result : Except RunError (Option Element)} :
    (device.find selector).Course events result ↔ events = [device.lookUp selector result] :=
  Script.course_perform_iff

theorem course_findWithin_iff {device : Device} {root : Element} {selector : Selector}
    {events : List Event} {result : Except RunError (Option Element)} :
    (device.findWithin root selector).Course events result ↔
      events = [.asked (.find selector (some root) (some device.findTimeout)) result] :=
  Script.course_perform_iff

theorem hierarchy_idle : hierarchy.Idle :=
  .perform rfl

end Device

/-- A selector is that of one of the buttons. -/
def Scroll.HasButton (scroll : Scroll) (selector : Selector) : Prop :=
  ∃ forward backward, scroll.action = .buttons forward backward ∧
    (selector = forward.query ∨ selector = backward.query)

/-- An element that was found for a selector is fit for what is asked in a step: it is an
enabled button, or it can be scrolled if it is as the selector says. -/
def Scroll.StepFits (scroll : Scroll) (selector : Selector) (element : Element) :
    Request → Prop
  | .click _ => element.enabled = true ∧ scroll.HasButton selector
  | .scroll _ _ _ => selector.accepts element = true → element.scrollable = true
  | _ => False

namespace Search

/-! ## Looks and steps -/

/-- A part of a search: a look for the target, or a step with what it reports and the
events in it. -/
inductive Part where
  | look (answer : Except RunError (Option Element))
  | step (way : Way) (report : Except RunError Bool) (events : List Event)

namespace Part

/-- The events of a part. -/
def events (search : Search) (target : Selector) : Part → List Event
  | .look answer => [search.device.lookUp target answer]
  | .step _ _ events => events

/-- A step of a search is one that can happen. -/
def Happens (search : Search) (scroll : Scroll) (description : String) : Part → Prop
  | .look _ => True
  | .step way report events => (search.step scroll way description).Course events report

/-- What a step in a direction reports. -/
def report? (way : Way) : Part → Option (Except RunError Bool)
  | .look _ => none
  | .step made report _ => if made = way then some report else none

/-- A part may come before another: no step forward before one back, only such steps
forward before others as moved something, and only such looks before steps as found
nothing. -/
def MayPrecede : Part → Part → Prop
  | .step .forward _ _, .step .backward _ _ => False
  | .step .forward report _, .step .forward _ _ => report = .ok true
  | .look answer, .step _ _ _ => answer = .ok none
  | _, _ => True

end Part

/-- What the steps in a direction report. -/
def reports (way : Way) (parts : List Part) : List (Except RunError Bool) :=
  parts.filterMap (Part.report? way)

/-- There are no more reports than said, and all but the last are that something moved. -/
def MovesOn (limit : Nat) (reports : List (Except RunError Bool)) : Prop :=
  reports.length ≤ limit ∧ ∀ report ∈ reports.dropLast, report = .ok true

/-- The parts of a search are in order and within the limit of steps. -/
structure Bounded (limit : Nat) (parts : List Part) : Prop where
  ordered : parts.Pairwise Part.MayPrecede
  movesOn : ∀ way, MovesOn limit (reports way parts)

/-- All parts are steps in one direction. -/
def AllSteps (way : Way) (parts : List Part) : Prop :=
  ∀ part ∈ parts, ∃ report events, part = .step way report events

/-- No part is a step in a direction. -/
def NoSteps (way : Way) (parts : List Part) : Prop :=
  ∀ part ∈ parts, part.report? way = none

/-- The parts of a search forward: no steps back, and the others are in order and within
the limit. -/
structure Onward (limit : Nat) (parts : List Part) : Prop where
  forward : NoSteps .backward parts
  ordered : parts.Pairwise Part.MayPrecede
  movesOn : MovesOn limit (reports .forward parts)

/-- The parts of a search are such as can happen, and make up its events. -/
structure PartsOf (search : Search) (scroll : Scroll) (target : Selector)
    (description : String) (parts : List Part) (events : List Event) : Prop where
  happen : ∀ part ∈ parts, part.Happens search scroll description
  events_eq : events = parts.flatMap (Part.events search target)

/-- The last part of a search is a look with a certain answer. -/
def EndsWith (parts : List Part) (answer : Except RunError (Option Element)) : Prop :=
  ∃ earlier, parts = earlier ++ [.look answer]

/-- The result of a search is that of its last look.  If nothing was found, the last step
forward moved nothing, or there were as many as said. -/
structure Truthful (limit : Nat) (parts : List Part)
    (result : Except RunError (Option Element)) : Prop where
  found : ∀ element, result = .ok (some element) → EndsWith parts (.ok (some element))
  missed : result = .ok none → EndsWith parts (.ok none) ∧
    ((reports .forward parts).getLast? = some (.ok false) ∨
      (reports .forward parts).length = limit)

/-- What is made of some parts ends with the error of a step, if there is one. -/
def Decisive (parts : List Part) (result : Except RunError α) : Prop :=
  ∀ way error made, .step way (.error error) made ∈ parts → result = .error error

variable {search : Search} {scroll : Scroll} {target : Selector} {way : Way}
  {description : String} {events : List Event}

/-! ## Steps -/

/-- Looking for a container acts on nothing, and the last look finds the container,
which can be scrolled if that look is to be trusted. -/
theorem course_container {element : Descriptor} {result : Except RunError Element}
    (course : (search.container element description).Course events result) :
    Quiet events ∧ ∀ found, result = .ok found → ∃ selector,
      FoundLast events selector found ∧
        (selector.accepts found = true → found.scrollable = true) := by
  rcases course.of_bind with ⟨error, failed, rfl⟩ | ⟨answer, first, later, looked, rest, rfl⟩
  · simp [Device.course_find_iff.1 failed]
  · obtain rfl := Device.course_find_iff.1 looked
    cases answer with
    | none =>
        obtain ⟨rfl, rfl⟩ := Script.course_fail_iff.1 rest
        simp
    | some outer =>
        simp only at rest
        split at rest
        next scrolls =>
          obtain ⟨rfl, rfl⟩ := Script.course_pure_iff.1 rest
          refine ⟨by simp, fun found same => ?_⟩
          cases same
          exact ⟨element.query, ⟨[], _, rfl, search.device.lookUp_finds _ _⟩, fun _ => scrolls⟩
        next =>
          rcases rest.of_bind with
            ⟨error, failed, rfl⟩ | ⟨inner, first, last, lookedInside, ended, rfl⟩
          · simp [Device.course_findWithin_iff.1 failed, Request.target?]
          · obtain rfl := Device.course_findWithin_iff.1 lookedInside
            cases inner with
            | none =>
                obtain ⟨rfl, rfl⟩ := Script.course_fail_iff.1 ended
                simp [Request.target?]
            | some inner =>
                obtain ⟨rfl, rfl⟩ := Script.course_pure_iff.1 ended
                refine ⟨by simp [Request.target?], fun found same => ?_⟩
                cases same
                refine ⟨.scrollable true, ⟨[_], _, rfl, _, _, rfl⟩, fun accepted => ?_⟩
                simpa [Selector.accepts] using accepted

/-- Looking for a button acts on nothing, and finds the button. -/
theorem course_button {wanted : Descriptor} {result : Except RunError Element}
    (course : (search.button wanted description).Course events result) :
    Quiet events ∧ ∀ found, result = .ok found → FoundLast events wanted.query found := by
  rcases course.of_bind with ⟨error, failed, rfl⟩ | ⟨answer, first, later, looked, rest, rfl⟩
  · simp [Device.course_find_iff.1 failed]
  · obtain rfl := Device.course_find_iff.1 looked
    cases answer with
    | none =>
        obtain ⟨rfl, rfl⟩ := Script.course_fail_iff.1 rest
        simp
    | some button =>
        obtain ⟨rfl, rfl⟩ := Script.course_pure_iff.1 rest
        refine ⟨by simp, fun found same => ?_⟩
        cases same
        exact ⟨[], _, rfl, search.device.lookUp_finds _ _⟩

theorem observe_idle (scroll : Scroll) (before : String) : (observe scroll before).Idle :=
  .bind (.pause _) fun _ => .bind Device.hierarchy_idle fun _ => .pure _

/-- There is one action in a row of events.  Its element was found right before and is
fit for it. -/
inductive ActsOnce (fits : Selector → Element → Request → Prop) : List Event → Prop where
  | intro {before after : List Event} {selector : Selector} {element : Element}
      {request : Request} {answer : Except RunError request.Answer}
      (quiet : Quiet before) (found : FoundLast before selector element)
      (acts : request.target? = some element) (fit : fits selector element request)
      (rest : Quiet after) : ActsOnce fits (before ++ .asked request answer :: after)

theorem ActsOnce.intro_of_course {fits : Selector → Element → Request → Prop}
    {request : Request} {next : request.Answer → Script Bool} {before : List Event}
    {selector : Selector} {element : Element} {result : Except RunError Bool}
    (quiet : Quiet before) (found : FoundLast before selector element)
    (acts : request.target? = some element) (fit : fits selector element request)
    (idle : ∀ answer, (next answer).Idle)
    (course : (Script.perform request >>= next).Course events result) :
    ActsOnce fits (before ++ events) := by
  obtain ⟨answer, rest, rfl, after⟩ := Script.Course.of_perform_bind idle course
  exact .intro quiet found acts fit after

/-- A step acts on nothing or once, and then on what is fit for it. -/
theorem course_step {result : Except RunError Bool}
    (course : (search.step scroll way description).Course events result) :
    Quiet events ∨ ActsOnce scroll.StepFits events := by
  rcases course.of_bind with ⟨error, failed, -⟩ | ⟨before, dump, later, dumped, rest, rfl⟩
  · exact .inl (Device.hierarchy_idle failed)
  · have dumpQuiet := Device.hierarchy_idle dumped
    cases action : scroll.action with
    | buttons forward backward =>
        simp only [action] at rest
        rcases rest.of_bind with ⟨error, failed, -⟩ | ⟨button, look, last, looked, stepped, rfl⟩
        · exact .inl (quiet_append.2 ⟨dumpQuiet, (course_button failed).1⟩)
        · obtain ⟨lookQuiet, isLast⟩ := course_button looked
          have quiet : Quiet (dump ++ look) := quiet_append.2 ⟨dumpQuiet, lookQuiet⟩
          rw [← List.append_assoc]
          split at stepped
          next enabled =>
            have found := (isLast button rfl).after dump
            refine .inr (.intro_of_course quiet found rfl ?_ ?_ stepped)
            · exact ⟨enabled, forward, backward, action, by cases way <;> simp⟩
            · exact fun _ => observe_idle scroll before
          next =>
            obtain ⟨rfl, -⟩ := Script.course_pure_iff.1 stepped
            exact .inl (by simpa using quiet)
    | gesture axis element =>
        simp only [action] at rest
        rcases rest.of_bind with ⟨error, failed, -⟩ | ⟨inner, look, last, looked, stepped, rfl⟩
        · exact .inl (quiet_append.2 ⟨dumpQuiet, (course_container failed).1⟩)
        · obtain ⟨lookQuiet, isLast⟩ := course_container looked
          obtain ⟨selector, found, scrolls⟩ := isLast inner rfl
          have quiet : Quiet (dump ++ look) := quiet_append.2 ⟨dumpQuiet, lookQuiet⟩
          rw [← List.append_assoc]
          refine .inr (.intro_of_course quiet (found.after dump) rfl ?_ ?_ stepped)
          · exact scrolls
          · exact fun _ => observe_idle scroll before

theorem step_grounded {result : Except RunError Bool}
    (course : (search.step scroll way description).Course events result) :
    Grounded scroll.StepFits events := by
  rcases course_step course with quiet | once
  · exact quiet.grounded
  · cases once with
    | intro quiet found acts fit rest => exact quiet.grounded.act found acts fit rest

theorem Quiet.countP_eq_zero (quiet : Quiet events) :
    events.countP (·.target?.isSome) = 0 := by
  rw [List.countP_eq_zero]
  intro event member
  simp [quiet event member]

theorem step_acts_le_one {result : Except RunError Bool}
    (course : (search.step scroll way description).Course events result) :
    events.countP (·.target?.isSome) ≤ 1 := by
  rcases course_step course with quiet | once
  · simp [Quiet.countP_eq_zero quiet]
  · cases once with
    | intro quiet _ acts _ rest =>
        simp [List.countP_append, Quiet.countP_eq_zero quiet, Quiet.countP_eq_zero rest, acts]

/-! ## Looks and steps in order -/

@[simp] theorem reports_nil (way : Way) : reports way [] = [] := rfl

@[simp] theorem reports_look (way : Way) (answer : Except RunError (Option Element))
    (parts : List Part) : reports way (.look answer :: parts) = reports way parts := rfl

@[simp] theorem reports_step (way made : Way) (report : Except RunError Bool)
    (events : List Event) (parts : List Part) :
    reports way (.step made report events :: parts) =
      if made = way then report :: reports way parts else reports way parts := by
  by_cases same : made = way <;> simp [reports, Part.report?, same]

@[simp] theorem reports_append (way : Way) (first second : List Part) :
    reports way (first ++ second) = reports way first ++ reports way second :=
  List.filterMap_append

@[simp] theorem movesOn_nil (limit : Nat) : MovesOn limit [] := by
  simp [MovesOn]

theorem movesOn_single (limit : Nat) (report : Except RunError Bool) :
    MovesOn (limit + 1) [report] := by
  simp [MovesOn]

theorem MovesOn.cons {limit : Nat} {reports : List (Except RunError Bool)}
    (movesOn : MovesOn limit reports) : MovesOn (limit + 1) (.ok true :: reports) := by
  obtain ⟨within, moved⟩ := movesOn
  cases reports with
  | nil => exact movesOn_single _ _
  | cons report rest => exact ⟨by simpa using within, by simpa using moved⟩

theorem NoSteps.reports_eq_nil {parts : List Part} (without : NoSteps way parts) :
    reports way parts = [] :=
  List.filterMap_eq_nil_iff.2 without

@[simp] theorem decisive_nil (result : Except RunError α) : Decisive [] result := by
  simp [Decisive]

@[simp] theorem decisive_look {answer : Except RunError (Option Element)} {parts : List Part}
    {result : Except RunError α} :
    Decisive (.look answer :: parts) result ↔ Decisive parts result := by
  simp [Decisive]

@[simp] theorem decisive_step {report : Except RunError Bool} {made : List Event}
    {parts : List Part} {result : Except RunError α} :
    Decisive (.step way report made :: parts) result ↔
      (∀ error, report = .error error → result = .error error) ∧ Decisive parts result := by
  constructor
  · intro decisive
    refine ⟨?_, fun way error made member => decisive way error made (List.mem_cons_of_mem _ member)⟩
    rintro error rfl
    exact decisive way error made (List.mem_cons_self ..)
  · rintro ⟨failed, decisive⟩ other error events member
    rcases List.mem_cons.1 member with same | later
    · cases same
      exact failed error rfl
    · exact decisive other error events later

/-- Steps that ended without an error leave it to the others how it ends. -/
theorem Decisive.append {first second : List Part} {value : α} {result : Except RunError β}
    (ended : Decisive first (Except.ok value : Except RunError α))
    (decisive : Decisive second result) : Decisive (first ++ second) result := by
  intro way error made member
  rcases List.mem_append.1 member with inFirst | inSecond
  · cases ended way error made inFirst
  · exact decisive way error made inSecond

namespace PartsOf

variable {parts more : List Part} {later : List Event}

theorem nil : PartsOf search scroll target description [] [] :=
  ⟨by simp, rfl⟩

theorem look (answer : Except RunError (Option Element))
    (rest : PartsOf search scroll target description parts events) :
    PartsOf search scroll target description (.look answer :: parts)
      (search.device.lookUp target answer :: events) := by
  refine ⟨?_, ?_⟩
  · simpa [Part.Happens] using rest.happen
  · simp [Part.events, rest.events_eq]

theorem step {report : Except RunError Bool} {made : List Event}
    (happens : (search.step scroll way description).Course made report)
    (rest : PartsOf search scroll target description parts events) :
    PartsOf search scroll target description (.step way report made :: parts)
      (made ++ events) := by
  refine ⟨?_, ?_⟩
  · simpa [Part.Happens, happens] using rest.happen
  · simp [Part.events, rest.events_eq]

theorem append (first : PartsOf search scroll target description parts events)
    (second : PartsOf search scroll target description more later) :
    PartsOf search scroll target description (parts ++ more) (events ++ later) := by
  refine ⟨fun part member => ?_, ?_⟩
  · exact (List.mem_append.1 member).elim (first.happen part) (second.happen part)
  · rw [List.flatMap_append, ← first.events_eq, ← second.events_eq]

end PartsOf

/-- Steps until one moves nothing. -/
theorem course_stepUntilStill (target : Selector) {steps : Nat} {result : Except RunError Unit}
    (course : (search.stepUntilStill scroll way description steps).Course events result) :
    ∃ parts, PartsOf search scroll target description parts events ∧ AllSteps way parts ∧
      MovesOn steps (reports way parts) ∧ Decisive parts result := by
  induction steps generalizing events with
  | zero =>
      obtain ⟨rfl, -⟩ := Script.course_pure_iff.1 course
      exact ⟨[], .nil, by simp [AllSteps], by simp⟩
  | succ steps ih =>
      rcases course.of_bind with ⟨error, failed, rfl⟩ | ⟨moved, made, later, stepped, rest, rfl⟩
      · refine ⟨[.step way (.error error) events], ?_, by simp [AllSteps], ?_, by simp⟩
        · simpa using PartsOf.nil.step failed
        · simpa using movesOn_single steps _
      · cases moved with
        | false =>
            obtain ⟨rfl, -⟩ := Script.course_pure_iff.1 rest
            refine ⟨[.step way (.ok false) made], PartsOf.nil.step stepped, by simp [AllSteps], ?_,
              by simp⟩
            simpa using movesOn_single steps _
        | true =>
            obtain ⟨parts, isMade, all, movesOn, decisive⟩ := ih rest
            refine ⟨.step way (.ok true) made :: parts, isMade.step stepped, ?_, ?_, ?_⟩
            · simpa [AllSteps] using all
            · simpa using movesOn.cons
            · simpa using decisive

namespace Truthful

variable {limit : Nat} {parts : List Part}

theorem error (failure : RunError) : Truthful limit parts (.error failure) :=
  ⟨fun _ same => (by cases same), fun same => (by cases same)⟩

theorem some {element : Element} (ends : EndsWith parts (.ok (.some element))) :
    Truthful limit parts (.ok (.some element)) :=
  ⟨fun _ same => (by cases same; exact ends), fun same => (by cases same)⟩

theorem none (ends : EndsWith parts (.ok .none))
    (stopped : (reports .forward parts).getLast? = .some (.ok false) ∨
      (reports .forward parts).length = limit) : Truthful limit parts (.ok .none) :=
  ⟨fun _ same => (by cases same), fun _ => ⟨ends, stopped⟩⟩

end Truthful

/-- A look that found nothing may come before anything. -/
theorem Part.mayPrecede_of_look (part : Part) : (Part.look (.ok none)).MayPrecede part := by
  cases part <;> simp [MayPrecede]

/-- A step forward that moved something may come before all but steps back. -/
theorem Part.mayPrecede_of_moved (made : List Event) {part : Part}
    (without : part.report? .backward = none) :
    (Part.step .forward (.ok true) made).MayPrecede part := by
  cases part with
  | look => simp [MayPrecede]
  | step way report events =>
      cases way with
      | forward => simp [MayPrecede]
      | backward => simp [report?] at without

namespace Onward

variable {limit : Nat} {parts : List Part} {made : List Event}

theorem nil : Onward limit [] :=
  ⟨by simp [NoSteps], .nil, by simp⟩

theorem step (report : Except RunError Bool) (made : List Event) :
    Onward (limit + 1) [.step .forward report made] :=
  ⟨by simp [NoSteps, Part.report?], by simp, by simpa using movesOn_single limit report⟩

theorem step_look (report : Except RunError Bool) (made : List Event)
    (answer : Except RunError (Option Element)) :
    Onward (limit + 1) [.step .forward report made, .look answer] :=
  ⟨by simp [NoSteps, Part.report?], by simp [Part.MayPrecede],
    by simpa using movesOn_single limit report⟩

/-- More may follow upon a step that moved something and a look that found nothing. -/
theorem cons (rest : Onward limit parts) (made : List Event) :
    Onward (limit + 1) (.step .forward (.ok true) made :: .look (.ok none) :: parts) := by
  have without : NoSteps .backward (.look (.ok none) :: parts) := by
    simpa [NoSteps, Part.report?] using rest.forward
  refine ⟨?_, .cons ?_ (.cons ?_ rest.ordered), ?_⟩
  · simpa [NoSteps, Part.report?] using rest.forward
  · exact fun part member => part.mayPrecede_of_moved made (without part member)
  · exact fun part _ => part.mayPrecede_of_look
  · simpa using rest.movesOn.cons

end Onward

/-- What is true of a search forward is true with one more step before it that moved
something. -/
theorem Truthful.cons {limit : Nat} {parts : List Part}
    {result : Except RunError (Option Element)} (made : List Event)
    (truthful : Truthful limit (.look (.ok .none) :: parts) result) :
    Truthful (limit + 1)
      (.look (.ok .none) :: .step .forward (.ok true) made :: .look (.ok .none) :: parts)
      result := by
  have more : ∀ answer, EndsWith (.look (.ok .none) :: parts) answer →
      EndsWith (.look (.ok .none) :: .step .forward (.ok true) made :: .look (.ok .none) :: parts)
        answer := by
    rintro answer ⟨earlier, same⟩
    exact ⟨_ :: _ :: earlier, by rw [same]; rfl⟩
  refine ⟨fun element same => more _ (truthful.found element same), fun same => ?_⟩
  obtain ⟨ends, stopped⟩ := truthful.missed same
  refine ⟨more _ ends, stopped.imp (fun still => ?_) (fun spent => ?_)⟩
  · have last : (reports .forward parts).getLast? = .some (.ok false) := still
    simp [List.getLast?_cons, last]
  · simpa using spent

/-- A search forward that follows upon a look that found nothing. -/
theorem course_findForward {steps : Nat} {result : Except RunError (Option Element)}
    (course : (search.findForward scroll target description steps).Course events result) :
    ∃ parts, PartsOf search scroll target description parts events ∧ Onward steps parts ∧
      Truthful steps (.look (.ok none) :: parts) result ∧ Decisive parts result := by
  induction steps generalizing events with
  | zero =>
      obtain ⟨rfl, rfl⟩ := Script.course_pure_iff.1 course
      exact ⟨[], .nil, .nil, .none ⟨[], rfl⟩ (.inr rfl), by simp⟩
  | succ steps ih =>
      rcases course.of_bind with ⟨error, failed, rfl⟩ | ⟨moved, made, later, stepped, rest, rfl⟩
      · exact ⟨[_], by simpa using PartsOf.nil.step failed, .step .., .error _, by simp⟩
      rcases rest.of_bind with ⟨error, failed, rfl⟩ | ⟨answer, look, last, looked, ended, rfl⟩
      · obtain rfl := Device.course_find_iff.1 failed
        exact ⟨[_, _], (PartsOf.nil.look _).step stepped, .step_look .., .error _, by simp⟩
      · obtain rfl := Device.course_find_iff.1 looked
        cases answer with
        | some element =>
            obtain ⟨rfl, rfl⟩ := Script.course_pure_iff.1 ended
            exact ⟨[_, _], (PartsOf.nil.look _).step stepped, .step_look .., .some ⟨[_, _], rfl⟩,
              by simp⟩
        | none =>
            cases moved with
            | false =>
                obtain ⟨rfl, rfl⟩ := Script.course_pure_iff.1 ended
                exact ⟨[_, _], (PartsOf.nil.look _).step stepped, .step_look ..,
                  .none ⟨[_, _], rfl⟩ (.inl rfl), by simp⟩
            | true =>
                obtain ⟨parts, isMade, onward, truthful, decisive⟩ := ih ended
                exact ⟨_ :: _ :: parts, (isMade.look _).step stepped, onward.cons made,
                  truthful.cons made, by simpa using decisive⟩

/-! ## Searches -/

theorem AllSteps.noSteps_forward {back : List Part} (all : AllSteps .backward back) :
    NoSteps .forward back := by
  intro part member
  obtain ⟨report, events, rfl⟩ := all part member
  rfl

theorem AllSteps.mayPrecede {back : List Part} (all : AllSteps .backward back) {part : Part}
    (member : part ∈ back) (later : Part) : part.MayPrecede later := by
  obtain ⟨report, events, rfl⟩ := all part member
  cases later <;> trivial

theorem Onward.look {limit : Nat} (answer : Except RunError (Option Element)) :
    Onward limit [.look answer] :=
  ⟨by simp [NoSteps, Part.report?], by simp, by simp⟩

theorem Onward.look_cons {limit : Nat} {parts : List Part} (onward : Onward limit parts) :
    Onward limit (.look (.ok none) :: parts) :=
  ⟨by simpa [NoSteps, Part.report?] using onward.forward,
    .cons (fun part _ => part.mayPrecede_of_look) onward.ordered, onward.movesOn⟩

theorem Bounded.look {limit : Nat} (answer : Except RunError (Option Element)) :
    Bounded limit [.look answer] :=
  ⟨by simp, by simp⟩

/-- A search may go on after it has rewound. -/
theorem Onward.bounded {limit : Nat} {back parts : List Part} (onward : Onward limit parts)
    (all : AllSteps .backward back) (movesOn : MovesOn limit (reports .backward back)) :
    Bounded limit (.look (.ok none) :: (back ++ parts)) := by
  refine ⟨.cons (fun part _ => part.mayPrecede_of_look) ?_, fun way => ?_⟩
  · refine List.pairwise_append.2 ⟨?_, onward.ordered, ?_⟩
    · exact List.pairwise_of_forall_mem_list fun part member later _ => all.mayPrecede member later
    · exact fun part member later _ => all.mayPrecede member later
  · cases way with
    | forward =>
        rw [reports_look, reports_append, all.noSteps_forward.reports_eq_nil, List.nil_append]
        exact onward.movesOn
    | backward =>
        rw [reports_look, reports_append, onward.forward.reports_eq_nil, List.append_nil]
        exact movesOn

/-- Rewinding before a search forward changes neither its end nor its steps forward. -/
theorem Truthful.after_rewinding {limit : Nat} {back parts : List Part}
    {result : Except RunError (Option Element)} (all : AllSteps .backward back)
    (truthful : Truthful limit parts result) :
    Truthful limit (.look (.ok .none) :: (back ++ parts)) result := by
  have more : ∀ answer, EndsWith parts answer →
      EndsWith (.look (.ok .none) :: (back ++ parts)) answer := by
    rintro answer ⟨earlier, rfl⟩
    exact ⟨.look (.ok .none) :: (back ++ earlier), by simp⟩
  refine ⟨fun element same => more _ (truthful.found element same), fun same => ?_⟩
  obtain ⟨ends, stopped⟩ := truthful.missed same
  refine ⟨more _ ends, ?_⟩
  rw [reports_look, reports_append, all.noSteps_forward.reports_eq_nil, List.nil_append]
  exact stopped

/-- What a search is made of, and what becomes of the errors of its steps. -/
theorem course_find_decisive {result : Except RunError (Option Element)}
    (course : (search.find scroll target description).Course events result) :
    ∃ parts, PartsOf search scroll target description parts events ∧
      Bounded search.maxSteps parts ∧ Truthful search.maxSteps parts result ∧
      Decisive parts result := by
  rcases course.of_bind with ⟨error, failed, rfl⟩ | ⟨answer, look, later, looked, rest, rfl⟩
  · obtain rfl := Device.course_find_iff.1 failed
    exact ⟨[_], PartsOf.nil.look _, .look _, .error _, by simp⟩
  obtain rfl := Device.course_find_iff.1 looked
  cases answer with
  | some element =>
      obtain ⟨rfl, rfl⟩ := Script.course_pure_iff.1 rest
      exact ⟨[_], PartsOf.nil.look _, .look _, .some ⟨[], rfl⟩, by simp⟩
  | none =>
      rcases rest.of_bind with ⟨error, failed, rfl⟩ | ⟨_, rewound, later, rewinds, onward, rfl⟩
      · obtain ⟨back, isBack, all, movesOn, decisive⟩ := course_stepUntilStill target failed
        refine ⟨_, isBack.look _, ?_, .error _, decisive_look.2 ?_⟩
        · simpa using Onward.nil.bounded all movesOn
        · exact fun way error made member => congrArg _ (Except.error.inj (decisive _ _ _ member))
      obtain ⟨back, isBack, all, movesOn, backDecisive⟩ := course_stepUntilStill target rewinds
      rcases onward.of_bind with ⟨error, failed, rfl⟩ | ⟨answer, look, last, looked, ended, rfl⟩
      · obtain rfl := Device.course_find_iff.1 failed
        exact ⟨_, (isBack.append (PartsOf.nil.look _)).look _, (Onward.look _).bounded all movesOn,
          .error _, decisive_look.2 (backDecisive.append (by simp))⟩
      obtain rfl := Device.course_find_iff.1 looked
      cases answer with
      | some element =>
          obtain ⟨rfl, rfl⟩ := Script.course_pure_iff.1 ended
          exact ⟨_, (isBack.append (PartsOf.nil.look _)).look _,
            (Onward.look _).bounded all movesOn, .some ⟨.look (.ok none) :: back, rfl⟩,
            decisive_look.2 (backDecisive.append (by simp))⟩
      | none =>
          obtain ⟨parts, isMade, onward, truthful, decisive⟩ := course_findForward ended
          exact ⟨_, (isBack.append (isMade.look _)).look _,
            onward.look_cons.bounded all movesOn, truthful.after_rewinding all,
            decisive_look.2 (backDecisive.append (decisive_look.2 decisive))⟩

/-- What a search is made of. -/
theorem course_find {result : Except RunError (Option Element)}
    (course : (search.find scroll target description).Course events result) :
    ∃ parts, PartsOf search scroll target description parts events ∧
      Bounded search.maxSteps parts ∧ Truthful search.maxSteps parts result := by
  obtain ⟨parts, isMade, bounded, truthful, -⟩ := course_find_decisive course
  exact ⟨parts, isMade, bounded, truthful⟩

end Search

end Screenplay
