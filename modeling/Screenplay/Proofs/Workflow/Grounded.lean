import Screenplay.Proofs.Scrolling.Parts
import Screenplay.Proofs.Workflow.Location
import Screenplay.Proofs.Workflow.Means

/-!
# What a workflow acts on

While a workflow is carried out, nothing is done to an element unless the event right
before is the look-up that found it.  What is held can be held.  What is clicked is the
element that the task is about, or else an enabled button by which a search scrolls.
What is swiped can be scrolled, as far as look-ups are to be trusted.

That a click is one of these follows from its place in the run: some tasks have been
carried out as often as they say and the next one a number of times, and the click belongs
to its action, either to the search in it or to what comes after the search.
-/

namespace Screenplay

variable {State α β : Type}

/-- An element that was found is fit for what is asked by a task: it can be held, or it
can be scrolled if it is as the selector says. -/
def TaskFits (selector : Selector) (element : Element) : Request → Prop
  | .longClick _ => element.longClickable = true
  | .scroll _ _ _ => selector.accepts element = true → element.scrollable = true
  | _ => True

theorem Scroll.StepFits.taskFits {scroll : Scroll} {selector : Selector} {element : Element}
    {request : Request} (fit : scroll.StepFits selector element request) :
    TaskFits selector element request := by
  cases request with
  | scroll => exact fit
  | longClick => exact fit.elim
  | _ => trivial

/-- An engine finds nothing but what it was asked for. -/
def Engine.FindsWhatIsMeant (engine : Engine State) : Prop :=
  ∀ selector root timeout state element,
    (engine.answer (.find selector root timeout) state).1 = .ok (some element) →
      selector.accepts element = true

/-- A script looks for an element that a selector means: what it does on the way is
grounded, and what it comes back with was found by its last event. -/
structure Seeks (fits : Selector → Element → Request → Prop) (selector : Selector)
    (script : Script (Option Element)) : Prop where
  grounded : ∀ ⦃events result⦄, script.Course events result → Grounded fits events
  last : ∀ ⦃events element⦄, script.Course events (.ok (some element)) →
    FoundLast events selector element

theorem Seeks.mono {fits weaker : Selector → Element → Request → Prop} {selector : Selector}
    {script : Script (Option Element)} (seeks : Seeks fits selector script)
    (implies : ∀ selector element request, fits selector element request →
      weaker selector element request) : Seeks weaker selector script :=
  ⟨fun _ _ course => (seeks.grounded course).mono implies, seeks.last⟩

theorem Device.find_seeks {fits : Selector → Element → Request → Prop} (device : Device)
    (selector : Selector) : Seeks fits selector (device.find selector) := by
  constructor
  · intro events result course
    rw [Device.course_find_iff.1 course]
    exact Quiet.grounded (by simp)
  · intro events element course
    rw [Device.course_find_iff.1 course]
    exact ⟨[], _, rfl, device.lookUp_finds _ _⟩

namespace Search

variable {search : Search} {scroll : Scroll} {target : Selector} {description : String}
  {parts : List Part} {events : List Event} {element : Element}

theorem PartsOf.grounded (isMade : PartsOf search scroll target description parts events) :
    Grounded scroll.StepFits events := by
  rw [isMade.events_eq]
  refine Grounded.flatMap fun part member => ?_
  cases part with
  | look answer => exact Quiet.grounded (by simp [Part.events])
  | step way report made => exact step_grounded (isMade.happen _ member)

theorem PartsOf.foundLast (isMade : PartsOf search scroll target description parts events)
    (ends : EndsWith parts (.ok (some element))) : FoundLast events target element := by
  obtain ⟨earlier, rfl⟩ := ends
  rw [isMade.events_eq, List.flatMap_append, List.flatMap_singleton]
  exact ⟨_, _, rfl, search.device.lookUp_finds _ _⟩

theorem find_seeks (search : Search) (scroll : Scroll) (target : Selector)
    (description : String) :
    Seeks scroll.StepFits target (search.find scroll target description) := by
  constructor
  · intro events result course
    obtain ⟨parts, isMade, -, -⟩ := course_find course
    exact isMade.grounded
  · intro events element course
    obtain ⟨parts, isMade, -, truthful⟩ := course_find course
    exact isMade.foundLast (truthful.found element rfl)

end Search

namespace Executor

variable {executor : Executor} {engine : Engine State} {state middle : State}
  {action : Action} {events before after inner : List Event} {element : Element}

/-! ## Actions -/

theorem findByScrolling_seeks (executor : Executor) (element : Descriptor) (scroll : Scroll) :
    Seeks scroll.StepFits element.query (executor.findByScrolling element scroll) := by
  have looks : Seeks scroll.StepFits element.query (executor.device.find element.query) :=
    executor.device.find_seeks _
  have searches := executor.search.find_seeks scroll element.query ("find " ++ element.display)
  constructor
  · intro events result course
    rcases course.of_bind with ⟨error, failed, -⟩ | ⟨found, look, later, looked, rest, rfl⟩
    · exact looks.grounded failed
    · cases found with
      | some target =>
          obtain ⟨rfl, -⟩ := Script.course_pure_iff.1 rest
          simpa using looks.grounded looked
      | none => exact (looks.grounded looked).append (searches.grounded rest)
  · intro events target course
    rcases course.of_bind with ⟨error, -, same⟩ | ⟨found, look, later, looked, rest, rfl⟩
    · cases same
    · cases found with
      | some other =>
          obtain ⟨rfl, same⟩ := Script.course_pure_iff.1 rest
          cases same
          simpa using looks.last looked
      | none => exact (searches.last rest).after look

/-- What is clicked after it was sought is what was found. -/
theorem clickFound_grounded {selector : Selector} {script : Script (Option Element)}
    (seeks : Seeks TaskFits selector script) {optional : Bool} {missing : String}
    {result : Except RunError Unit}
    (course : (script >>= fun found => executor.clickFound found optional missing).Course
      events result) : Grounded TaskFits events := by
  rcases course.of_bind with ⟨error, failed, -⟩ | ⟨found, search, later, sought, rest, rfl⟩
  · exact seeks.grounded failed
  · cases found with
    | none =>
        refine (seeks.grounded sought).append ?_
        cases optional with
        | true => exact Quiet.grounded (by simp [(Script.course_pure_iff.1 rest).1])
        | false => exact Quiet.grounded (by simp [(Script.course_fail_iff.1 rest).1])
    | some target =>
        obtain ⟨answer, settled, rfl, quiet⟩ :=
          Script.Course.of_perform_bind (fun _ => Script.Idle.pause _) rest
        exact (seeks.grounded sought).act (seeks.last sought) rfl trivial quiet

/-- All that is done by holding an element is to hold it, and it can be held. -/
theorem longClick_grounded {sought : Descriptor} {result : Except RunError Unit}
    (course : (executor.perform (.longClick sought)).Course events result) :
    Grounded (fun _ element request => request = .longClick element ∧
      element.longClickable = true) events := by
  have looks : Seeks (fun _ element request => request = .longClick element ∧
      element.longClickable = true) sought.query (executor.device.find sought.query) :=
    executor.device.find_seeks _
  rcases course.of_bind with ⟨error, failed, -⟩ | ⟨found, look, later, looked, rest, rfl⟩
  · exact looks.grounded failed
  · cases found with
    | none =>
        obtain ⟨rfl, -⟩ := Script.course_fail_iff.1 rest
        simpa using looks.grounded looked
    | some target =>
        simp only [Device.longClick] at rest
        split at rest
        next holds =>
          obtain ⟨answer, settled, rfl, quiet⟩ :=
            Script.Course.of_perform_bind (fun _ => Script.Idle.pause _) rest
          exact (looks.grounded looked).act (looks.last looked) rfl ⟨rfl, holds⟩ quiet
        next =>
          obtain ⟨rfl, -⟩ := Script.course_fail_iff.1 rest
          simpa using looks.grounded looked

/-- The search for what a task is to click. -/
def targetSearch? (executor : Executor) : Action → Option (Script (Option Element))
  | .click sought _ => some (executor.device.find sought.query)
  | .scrollToFindAndClick sought scroll _ => some (executor.findByScrolling sought scroll)
  | _ => none

/-- Whatever a task does to an element follows upon the look-up that found it. -/
theorem perform_grounded {result : Except RunError Unit}
    (course : (executor.perform action).Course events result) : Grounded TaskFits events := by
  cases action with
  | click sought optional =>
      exact clickFound_grounded (executor.device.find_seeks sought.query) course
  | scrollToFindAndClick sought scroll optional =>
      have seeks := executor.findByScrolling_seeks sought scroll
      exact clickFound_grounded (seeks.mono fun _ _ _ => Scroll.StepFits.taskFits) course
  | longClick sought =>
      refine (longClick_grounded course).mono ?_
      rintro selector element request ⟨rfl, holds⟩
      exact holds
  | _ => exact (executor.perform_idle rfl course).grounded

/-! ## Clicks -/

/-- A click may only be the first event once what is sought was found. -/
theorem of_clickFound {found : Option Element} {optional : Bool} {missing : String}
    {answer : Except RunError Unit}
    (clicked : (executor.clickFound found optional missing).events engine middle =
      inner ++ .asked (.click element) answer :: after) : found = some element ∧ inner = [] := by
  cases found with
  | none => cases optional <;> simp [clickFound, Script.fail, Script.events, pure] at clicked
  | some target =>
      rcases Script.event_of_bind clicked with ⟨rest, first⟩ | ⟨_, last, more, -, -, settling⟩
      · rcases List.singleton_eq_append_iff.1 first with ⟨rfl, same⟩ | ⟨-, same⟩
        · cases same
          exact ⟨rfl, rfl⟩
        · cases same
      · have quiet := Script.Idle.pause _ (Script.course_run engine executor.device.settle last)
        rw [settling] at quiet
        simp [Request.target?] at quiet

/-- A click in a search and what follows upon it is one in the search, or else one of what
the search has come back with. -/
theorem click_of_bind {search : Script (Option Element)} {optional : Bool} {missing : String}
    {answer : Except RunError Unit}
    (clicked : (search >>= fun found => executor.clickFound found optional missing).events engine
      middle = inner ++ .asked (.click element) answer :: after) :
    (∃ rest, search.events engine middle = inner ++ .asked (.click element) answer :: rest) ∨
      ((search.run engine middle).1 = .ok (some element) ∧
        inner = search.events engine middle) := by
  rcases Script.event_of_bind clicked with inSearch | ⟨found, last, more, ran, rfl, clicking⟩
  · exact .inl inSearch
  · obtain ⟨rfl, rfl⟩ := of_clickFound clicking
    exact .inr ⟨congrArg Prod.fst ran, List.append_nil _⟩

/-- After some events an action clicks what it is about: they are those of the search for
it, which came back with it. -/
def ClicksTarget (executor : Executor) (engine : Engine State) (action : Action)
    (middle : State) (inner : List Event) (element : Element) : Prop :=
  ∃ search, executor.targetSearch? action = some search ∧
    (search.run engine middle).1 = .ok (some element) ∧ inner = search.events engine middle

/-- After some events an action clicks a button by which it scrolls: the click is one of
the events of its search. -/
def ClicksButton (executor : Executor) (engine : Engine State) (action : Action)
    (middle : State) (inner : List Event) (element : Element) : Prop :=
  ∃ sought scroll optional answer rest, action = .scrollToFindAndClick sought scroll optional ∧
    (executor.findByScrolling sought scroll).events engine middle =
      inner ++ .asked (.click element) answer :: rest

/-- A button that is clicked is enabled, and was found as one of the two buttons of the
search. -/
theorem ClicksButton.enabled
    (clicks : executor.ClicksButton engine action middle inner element) :
    element.enabled = true ∧ ∃ sought scroll optional selector,
      action = .scrollToFindAndClick sought scroll optional ∧ scroll.HasButton selector ∧
      FoundLast inner selector element := by
  obtain ⟨sought, scroll, optional, answer, rest, rfl, clicked⟩ := clicks
  have grounded := (executor.findByScrolling_seeks sought scroll).grounded
    (Script.course_run engine _ middle)
  obtain ⟨selector, found, enabled, button⟩ := grounded _ _ _ clicked _ _ _ rfl rfl
  exact ⟨enabled, sought, scroll, optional, selector, rfl, button, found⟩

/-- A task clicks nothing but what it is about and buttons. -/
theorem perform_clicks {answer : Except RunError Unit}
    (clicked : (executor.perform action).events engine middle =
      inner ++ .asked (.click element) answer :: after) :
    executor.ClicksTarget engine action middle inner element ∨
      executor.ClicksButton engine action middle inner element := by
  have course := Script.course_run engine (executor.perform action) middle
  cases action with
  | click sought optional =>
      rcases click_of_bind clicked with ⟨rest, inSearch⟩ | ⟨ended, same⟩
      · have quiet : Quiet ((executor.device.find sought.query).events engine middle) :=
          Script.Idle.perform rfl (Script.course_run engine _ middle)
        rw [inSearch] at quiet
        simp [Request.target?] at quiet
      · exact .inl ⟨_, rfl, ended, same⟩
  | scrollToFindAndClick sought scroll optional =>
      rcases click_of_bind clicked with ⟨rest, inSearch⟩ | ⟨ended, same⟩
      · exact .inr ⟨sought, scroll, optional, answer, rest, rfl, inSearch⟩
      · exact .inl ⟨_, rfl, ended, same⟩
  | longClick sought =>
      obtain ⟨_, _, held, _⟩ := longClick_grounded course _ _ _ clicked _ _ _ rfl rfl
      cases held
  | _ =>
      have quiet := executor.perform_idle rfl course
      rw [clicked] at quiet
      simp [Request.target?] at quiet

/-! ## Workflows -/

/-- Every event of a workflow is grounded. -/
theorem runWorkflow_grounded (executor : Executor) (engine : Engine State) (config : Config)
    (name : String) (state : State) :
    Grounded TaskFits ((executor.runWorkflow config name).events engine state) := by
  rintro before _ after happened request answer element rfl acts
  obtain ⟨_, -, earlier, task, later, past, middle, inner, rest, -, -, rfl, inAction⟩ :=
    runWorkflow_asked happened
  have course := Script.course_run engine (executor.perform task.action) middle
  exact (perform_grounded course _ _ _ inAction).after past _ _ _ rfl acts

/-- Whatever a workflow does to an element, the event right before is the look-up that
found it.  An element that is held can be held.  A click is on what its task is about, or
else on an enabled button of the search of its task.  An element that is swiped can be
scrolled, if nothing is found but what was asked for. -/
theorem runWorkflow_acts_on_what_was_found (executor : Executor) (engine : Engine State)
    (config : Config) (name : String) (state : State) :
    let events := (executor.runWorkflow config name).events engine state
    (∀ before request answer element after, events = before ++ .asked request answer :: after →
      request.target? = some element → ∃ selector, FoundLast before selector element) ∧
    (∀ element answer, .asked (.longClick element) answer ∈ events →
      element.longClickable = true) ∧
    (∀ before element answer after,
      events = before ++ .asked (.click element) answer :: after →
      ∃ workflow earlier task later past middle inner, config.workflow name = .ok workflow ∧
        workflow.tasks = earlier ++ task :: later ∧
        executor.ComesTo engine name state earlier task past middle ∧ before = past ++ inner ∧
        (executor.ClicksTarget engine task.action middle inner element ∨
          executor.ClicksButton engine task.action middle inner element) ∧
        (executor.ClicksButton engine task.action middle inner element →
          element.enabled = true)) ∧
    (engine.FindsWhatIsMeant → ∀ element direction margin answer,
      .asked (.scroll element direction margin) answer ∈ events → element.scrollable = true) := by
  intro events
  have grounded := executor.runWorkflow_grounded engine config name state
  refine ⟨?_, ?_, ?_, ?_⟩
  · intro before request answer element after happened acts
    obtain ⟨selector, found, -⟩ := grounded _ _ _ happened _ _ _ rfl acts
    exact ⟨selector, found⟩
  · intro element answer member
    obtain ⟨before, after, happened⟩ := List.append_of_mem member
    obtain ⟨_, -, holds⟩ := grounded _ _ _ happened _ _ _ rfl rfl
    exact holds
  · intro before element answer after happened
    obtain ⟨workflow, defined, earlier, task, later, past, middle, inner, rest, split, comes, same,
      clicked⟩ := runWorkflow_asked happened
    exact ⟨workflow, earlier, task, later, past, middle, inner, defined, split, comes, same,
      perform_clicks clicked, fun clicks => clicks.enabled.1⟩
  · intro meant element direction margin answer member
    obtain ⟨before, after, happened⟩ := List.append_of_mem member
    obtain ⟨selector, ⟨_, lookUp, same, root, timeout, isLook⟩, scrolls⟩ :=
      grounded _ _ _ happened _ _ _ rfl rfl
    have looked : .asked (.find selector root timeout) (.ok (some element)) ∈ events := by
      rw [← isLook, happened, same]
      simp
    obtain ⟨middle, answered⟩ := Script.exists_answer_of_mem looked
    exact scrolls (meant _ _ _ _ _ answered)

/-- A row that can be held. -/
def heldRow : Element :=
  { handle := "row", text := some "row", longClickable := true }

/-- A book of two pages, the second of which shows the row. -/
def book : Element :=
  { handle := "book", className := some "book", scrollable := true }

/-- The button that leads to a page, as it looks on a page. -/
def turnTo (other page : Nat) : Element :=
  { handle := if other = 1 then "next" else "previous"
    text := some (if other = 1 then "next" else "previous")
    enabled := page != other }

/-- An engine that shows the book and the buttons. -/
def twoPages : Engine Nat where
  answer
    | .find selector _ _, page =>
        (.ok (([book, turnTo 1 page, turnTo 0 page] ++ if page = 1 then [heldRow] else []).find?
          selector.accepts), page)
    | .click element, page => (.ok (), if element.handle = "next" then 1 else page)
    | .longClick _, page => (.ok (), page)
    | .scroll _ direction _, _ => (.ok (), if direction = .down then 1 else 0)
    | .dump, page => (.ok (toString page), page)
    | _, page => (.error (.platform "out of order"), page)
  wait _ page := page

theorem twoPages_findsWhatIsMeant : twoPages.FindsWhatIsMeant :=
  fun _ _ _ _ _ found => List.find?_some (Except.ok.inj found)

/-- What is named by a fragment of its text. -/
def byText (fragment : String) (trimmed : Text.trim fragment = fragment)
    (filled : fragment.isEmpty = false) : Descriptor :=
  ⟨.textContains, fragment, none, .textContains fragment, trimmed, Descriptor.trimPackage_none, by
    simp [Descriptor.queryOf, filled]⟩

/-- A workflow that turns to the second page by a button and clicks the row, holds the
row, and swipes in search of something else. -/
def turnAndHold : Config :=
  let row := byText "row" (by decide) (by decide)
  let next := byText "next" (by decide) (by decide)
  let previous := byText "previous" (by decide) (by decide)
  let other := byText "other" (by decide) (by decide)
  let pages : Descriptor :=
    ⟨.className, "book", none, .className none "book", rfl, Descriptor.trimPackage_none, rfl⟩
  ({} : Config).insertWorkflow
    ⟨"visit", [⟨"turn", .scrollToFindAndClick row ⟨.buttons next previous, 10, 1⟩ false, 0⟩,
      ⟨"hold", .longClick row, 0⟩,
      ⟨"seek", .scrollToFindAndClick other ⟨.gesture .vertical pages, 10, 1⟩ true, 0⟩]⟩

/-- The events of the workflow. -/
def visit : List Event :=
  (runWorkflow {} turnAndHold "visit").events twoPages 0

theorem runWorkflow_acts_on_what_was_found_twoPages :
    (visit = visit.take 7 ++ .asked (.click (turnTo 1 0)) (.ok ()) :: visit.drop 8 ∧
      (∃ selector, FoundLast (visit.take 7) selector (turnTo 1 0)) ∧
      ∃ (task : Task) (middle : Nat) (inner : List Event),
        ClicksTarget {} twoPages task.action middle inner (turnTo 1 0) ∨
          ClicksButton {} twoPages task.action middle inner (turnTo 1 0)) ∧
      (.asked (.longClick heldRow) (.ok ()) ∈ visit ∧ heldRow.longClickable = true) ∧
      (.asked (.scroll book .down 10) (.ok ()) ∈ visit ∧ book.scrollable = true) := by
  obtain ⟨finds, holds, clicks, scrolls⟩ :=
    runWorkflow_acts_on_what_was_found {} twoPages turnAndHold "visit" 0
  have clicked : visit = visit.take 7 ++ .asked (.click (turnTo 1 0)) (.ok ()) :: visit.drop 8 :=
    rfl
  have held : visit[15]? = some (.asked (.longClick heldRow) (.ok ())) := rfl
  have swiped : visit[33]? = some (.asked (.scroll book .down 10) (.ok ())) := rfl
  obtain ⟨_, _, task, _, _, middle, inner, _, _, _, _, target, _⟩ := clicks _ _ _ _ clicked
  exact ⟨⟨clicked, finds _ _ _ _ _ clicked rfl, task, middle, inner, target⟩,
    ⟨List.mem_of_getElem? held, holds _ _ (List.mem_of_getElem? held)⟩,
    ⟨List.mem_of_getElem? swiped,
      scrolls twoPages_findsWhatIsMeant _ _ _ _ (List.mem_of_getElem? swiped)⟩⟩

end Executor

end Screenplay
