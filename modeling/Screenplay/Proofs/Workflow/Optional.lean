import Screenplay.Proofs.Scrolling.Parts
import Screenplay.Workflow.Executor

/-!
# Optional tasks

A task that clicks an element has a variant in which the element may be absent.  Both
variants do the same, whatever the device answers, and they end alike, except if the
search came back with nothing: then one fails for want of the element and the other has
succeeded.

A missing element is forgiven only if it is the one that was sought.  What scrolling needs
may be missing as well: a button, a container, or something in it that can be scrolled.
That is an error of a step, with which either variant ends.
-/

namespace Screenplay

variable {State : Type}

namespace Search

/-- A step lacks something that it needs, which its events show and a text describes. -/
inductive Lacks (search : Search) (scroll : Scroll) (description : String) :
    Way → List Event → String → Prop where
  | forwardButton {forward backward : Descriptor} {before : String}
      (action : scroll.action = .buttons forward backward) :
      Lacks search scroll description .forward
        [.asked .dump (.ok before), search.device.lookUp forward.query (.ok none)]
        ("unable to find scroll button " ++ forward.display ++ " to " ++ description)
  | backwardButton {forward backward : Descriptor} {before : String}
      (action : scroll.action = .buttons forward backward) :
      Lacks search scroll description .backward
        [.asked .dump (.ok before), search.device.lookUp backward.query (.ok none)]
        ("unable to find scroll button " ++ backward.display ++ " to " ++ description)
  | container {way : Way} {axis : Axis} {element : Descriptor} {before : String}
      (action : scroll.action = .gesture axis element) :
      Lacks search scroll description way
        [.asked .dump (.ok before), search.device.lookUp element.query (.ok none)]
        ("unable to find scroll container " ++ element.display ++ " to " ++ description)
  | content {way : Way} {axis : Axis} {element : Descriptor} {before : String} {outer : Element}
      (action : scroll.action = .gesture axis element) (still : outer.scrollable = false) :
      Lacks search scroll description way
        [.asked .dump (.ok before), search.device.lookUp element.query (.ok (some outer)),
          .asked (.find (.scrollable true) (some outer) (some search.device.findTimeout))
            (.ok none)]
        ("scroll container " ++ element.display ++ " has no scrollable content to " ++
          description)

end Search

/-- Two scripts do the same and end alike, except where something is absent: for want of
it the first one fails, and the second one succeeds. -/
structure Forgives (engine : Engine State) (state : State) (required optional : Script Unit)
    (absent : Prop) (missing : String) : Prop where
  events : optional.events engine state = required.events engine state
  after : (optional.run engine state).2 = (required.run engine state).2
  forgiven : absent ↔ (required.run engine state).1 = .error (.missingElement missing) ∧
    (optional.run engine state).1 = .ok ()
  same : ¬ absent → (optional.run engine state).1 = (required.run engine state).1

/-! ## Steps that lack something -/

namespace Search

variable {search : Search} {scroll : Scroll} {target : Selector} {description message : String}
  {way : Way} {made : List Event}

theorem course_button_missing (wanted : Descriptor) :
    (search.button wanted description).Course [search.device.lookUp wanted.query (.ok none)]
      (.error (.missingElement
        ("unable to find scroll button " ++ wanted.display ++ " to " ++ description))) :=
  (Device.course_find_iff.2 rfl).bind (Script.course_fail_iff.2 ⟨rfl, rfl⟩)

theorem course_container_missing (element : Descriptor) :
    (search.container element description).Course
      [search.device.lookUp element.query (.ok none)]
      (.error (.missingElement
        ("unable to find scroll container " ++ element.display ++ " to " ++ description))) :=
  (Device.course_find_iff.2 rfl).bind (Script.course_fail_iff.2 ⟨rfl, rfl⟩)

theorem course_container_still (element : Descriptor) {outer : Element}
    (still : outer.scrollable = false) :
    (search.container element description).Course
      [search.device.lookUp element.query (.ok (some outer)),
        .asked (.find (.scrollable true) (some outer) (some search.device.findTimeout)) (.ok none)]
      (.error (.missingElement
        ("scroll container " ++ element.display ++ " has no scrollable content to " ++
          description))) := by
  refine (Device.course_find_iff.2 rfl).bind ?_
  simp only [still, Bool.false_eq_true, if_false]
  exact (Device.course_findWithin_iff.2 rfl).bind (Script.course_fail_iff.2 ⟨rfl, rfl⟩)

/-- A step that lacks something can end in no other way. -/
theorem Lacks.course (lacks : Lacks search scroll description way made message) :
    (search.step scroll way description).Course made (.error (.missingElement message)) := by
  have dump : ∀ before : String, Device.hierarchy.Course [.asked .dump (.ok before)] (.ok before) :=
    fun before => Script.course_perform_iff.2 rfl
  cases lacks with
  | forwardButton action | backwardButton action =>
      refine (dump _).bind ?_
      simp only [action]
      exact (course_button_missing _).bind_error _
  | container action =>
      refine (dump _).bind ?_
      simp only [action]
      exact (course_container_missing _).bind_error _
  | content action still =>
      refine (dump _).bind ?_
      simp only [action]
      exact (course_container_still _ still).bind_error _

theorem Lacks.report_eq {report : Except RunError Bool}
    (lacks : Lacks search scroll description way made message)
    (happens : (Part.step way report made).Happens search scroll description) :
    report = .error (.missingElement message) :=
  Script.Course.unique happens lacks.course

/-- A search in which a step lacks something ends with an error that says so. -/
theorem find_lacking (search : Search) (scroll : Scroll) (target : Selector)
    (description : String) (engine : Engine State) (state : State) :
    let sought := search.find scroll target description
    ∃ parts, PartsOf search scroll target description parts (sought.events engine state) ∧
      Bounded search.maxSteps parts ∧
      ∀ way report made message, .step way report made ∈ parts →
        Lacks search scroll description way made message →
        (sought.run engine state).1 = .error (.missingElement message) := by
  intro sought
  obtain ⟨parts, isMade, bounded, -, decisive⟩ :=
    course_find_decisive (Script.course_run engine sought state)
  refine ⟨parts, isMade, bounded, fun way report made message member lacks => ?_⟩
  obtain rfl := lacks.report_eq (isMade.happen _ member)
  exact decisive way _ made member

/-- A step starts with a dump. -/
theorem dump_of_course_step {report : Except RunError Bool}
    (course : (search.step scroll way description).Course made report) :
    ∃ answer rest, made = .asked .dump answer :: rest := by
  rcases course.of_bind with ⟨error, failed, -⟩ | ⟨before, dump, later, dumped, -, rfl⟩
  · exact ⟨_, [], Script.course_perform_iff.1 failed⟩
  · exact ⟨_, later, by rw [Script.course_perform_iff.1 dumped]; rfl⟩

/-- Where a look is followed by a dump and by something that is neither, these two make up a
step. -/
theorem PartsOf.exists_step {parts : List Part} {answer : Except RunError (Option Element)}
    {shown : Except RunError String} {event : Event}
    (isMade : PartsOf search scroll target description parts
      [search.device.lookUp target answer, .asked .dump shown, event])
    (noLook : ∀ other, event ≠ search.device.lookUp target other)
    (noDump : ∀ other, event ≠ .asked .dump other) :
    ∃ way report, .step way report [.asked .dump shown, event] ∈ parts := by
  obtain ⟨happen, same⟩ := isMade
  rcases parts.eq_nil_or_concat with rfl | ⟨earlier, last, rfl⟩
  · cases same
  rw [List.concat_eq_append, List.flatMap_append, List.flatMap_singleton] at same
  cases last with
  | look other =>
      have isLast := congrArg List.getLast? same
      simp [Part.events, noLook] at isLast
  | step way report made =>
      obtain ⟨other, rest, rfl⟩ := dump_of_course_step (happen (.step way report made) (by simp))
      generalize earlier.flatMap (Part.events search target) = before at same
      rcases before with _ | ⟨_, _ | ⟨_, more⟩⟩
      · simp [Part.events, Device.lookUp] at same
      · simp only [Part.events, List.cons_append, List.nil_append, List.cons.injEq] at same
        obtain ⟨-, ⟨⟩, rfl⟩ := same
        exact ⟨way, report, by simp⟩
      · cases more <;> simp [Part.events, noDump] at same

end Search

/-! ## Variants of a task -/

variable {engine : Engine State} {state : State}

/-- Nothing is forgiven if nothing is absent. -/
theorem Forgives.of_present {required optional : Script Unit} {absent : Prop} {missing : String}
    (present : ¬ absent)
    (events : optional.events engine state = required.events engine state)
    (run : optional.run engine state = required.run engine state) :
    Forgives engine state required optional absent missing where
  events := events
  after := congrArg Prod.snd run
  forgiven := by
    refine iff_of_false present ?_
    rintro ⟨failed, succeeded⟩
    rw [run, failed] at succeeded
    cases succeeded
  same := fun _ => congrArg Prod.fst run

theorem Forgives.congr {required optional : Script Unit} {absent gone : Prop} {missing : String}
    (forgives : Forgives engine state required optional absent missing)
    (iff : absent ↔ gone) : Forgives engine state required optional gone missing :=
  propext iff ▸ forgives

namespace Executor

/-- Only the end of a click depends on whether it is optional. -/
theorem forgives_clickFound (executor : Executor) (sought : Script (Option Element))
    (missing : String) (engine : Engine State) (state : State) :
    Forgives engine state (sought >>= fun found => executor.clickFound found false missing)
      (sought >>= fun found => executor.clickFound found true missing)
      ((sought.run engine state).1 = .ok none) missing := by
  rcases ran : sought.run engine state with ⟨error | none | target, middle⟩
  case error =>
    refine .of_present (by simp) ?_ ?_
    · rw [Script.events_bind_of_error ran, Script.events_bind_of_error ran]
    · rw [Script.run_bind_of_error ran, Script.run_bind_of_error ran]
  case ok.some =>
    refine .of_present (by simp) ?_ ?_
    · rw [Script.events_bind_of_ok ran, Script.events_bind_of_ok ran]
      rfl
    · rw [Script.run_bind_of_ok ran, Script.run_bind_of_ok ran]
      rfl
  case ok.none =>
    constructor
    case events =>
      rw [Script.events_bind_of_ok ran, Script.events_bind_of_ok ran]
      rfl
    case after =>
      rw [Script.run_bind_of_ok ran, Script.run_bind_of_ok ran]
      rfl
    case forgiven =>
      rw [Script.run_bind_of_ok ran, Script.run_bind_of_ok ran]
      exact iff_of_true rfl ⟨rfl, rfl⟩
    case same =>
      exact fun present => (present rfl).elim

/-- Scrolling comes back with nothing if first a look and then a search do. -/
theorem findByScrolling_eq_none_iff (executor : Executor) (element : Descriptor)
    (scroll : Scroll) (engine : Engine State) (state : State) :
    ((executor.findByScrolling element scroll).run engine state).1 = .ok none ↔
      ((executor.device.find element.query).run engine state).1 = .ok none ∧
      ((executor.search.find scroll element.query ("find " ++ element.display)).run engine
        ((executor.device.find element.query).run engine state).2).1 = .ok none := by
  rw [findByScrolling, Script.run_bind]
  rcases (executor.device.find element.query).run engine state with ⟨error | none | target, middle⟩
  case error => simp
  case ok.none => simp
  case ok.some =>
    refine iff_of_false ?_ ?_
    · rintro ⟨⟩
    · rintro ⟨⟨⟩, -⟩

/-- An error of the search is the error of the task, be it optional or not. -/
theorem perform_scroll_of_error (executor : Executor) (element : Descriptor) (scroll : Scroll)
    (optional : Bool) {middle : State} {error : RunError}
    (looked : (executor.device.find element.query).run engine state = (.ok none, middle))
    (failed : ((executor.search.find scroll element.query ("find " ++ element.display)).run engine
      middle).1 = .error error) :
    ((executor.perform (.scrollToFindAndClick element scroll optional)).run engine state).1 =
      .error error := by
  rw [perform, findByScrolling, bind_assoc, Script.run_bind_of_ok looked]
  exact congrArg Prod.fst (Script.run_bind_of_error (Prod.ext failed rfl) _)

/-- The optional and the required variant of a task do the same and end alike, except if the
element was sought without an error and not found.  Where a step lacks what it needs,
both end with the error that says so. -/
theorem perform_forgives (executor : Executor) (element : Descriptor) (engine : Engine State)
    (state : State) :
    let looked := (executor.device.find element.query).run engine state
    Forgives engine state (executor.perform (.click element false))
      (executor.perform (.click element true)) (looked.1 = .ok none) element.display ∧
    ∀ scroll,
      let task optional := executor.perform (.scrollToFindAndClick element scroll optional)
      let description := "find " ++ element.display
      let sought := executor.search.find scroll element.query description
      Forgives engine state (task false) (task true)
        (looked.1 = .ok none ∧ (sought.run engine looked.2).1 = .ok none)
        (element.display ++ " not found after scrolling") ∧
      (looked.1 = .ok none →
        ∃ parts, Search.PartsOf executor.search scroll element.query description parts
            (sought.events engine looked.2) ∧
          Search.Bounded executor.search.maxSteps parts ∧
          ∀ way report made message, .step way report made ∈ parts →
            Search.Lacks executor.search scroll description way made message →
            ∀ optional, ((task optional).run engine state).1 = .error (.missingElement message)) := by
  intro looked
  refine ⟨executor.forgives_clickFound (executor.device.find element.query) _ engine state, ?_⟩
  intro scroll task description sought
  constructor
  · exact (executor.forgives_clickFound (executor.findByScrolling element scroll) _ engine
      state).congr (executor.findByScrolling_eq_none_iff element scroll engine state)
  · intro absent
    obtain ⟨parts, isMade, bounded, lacking⟩ :=
      executor.search.find_lacking scroll element.query description engine looked.2
    refine ⟨parts, isMade, bounded, fun way report made message member lacks optional => ?_⟩
    exact executor.perform_scroll_of_error element scroll optional (Prod.ext absent rfl)
      (lacking way report made message member lacks)

/-- An engine with an empty screen. -/
def emptyScreen : Engine Unit where
  answer
    | .find _ _ _, _ => (.ok none, ())
    | .dump, _ => (.ok "", ())
    | _, _ => (.error (.platform "out of order"), ())
  wait _ _ := ()

/-- A row, and the list of all rows. -/
def row : Descriptor :=
  ⟨.className, "row", none, .className none "row", rfl, Descriptor.trimPackage_none, rfl⟩

def rows : Descriptor :=
  ⟨.className, "rows", none, .className none "rows", rfl, Descriptor.trimPackage_none, rfl⟩

/-- On an empty screen a row that may be absent is forgiven, but not the list of rows. -/
theorem perform_forgives_emptyScreen :
    ((perform {} (.click row false)).run emptyScreen ()).1 = .error (.missingElement row.display) ∧
      ((perform {} (.click row true)).run emptyScreen ()).1 = .ok () ∧
      ∀ optional, ((perform {} (.scrollToFindAndClick row ⟨.gesture .vertical rows, 10, 1⟩
          optional)).run emptyScreen ()).1 =
        .error (.missingElement
          ("unable to find scroll container " ++ rows.display ++ " to find " ++ row.display)) := by
  obtain ⟨clicks, scrolls⟩ := perform_forgives {} row emptyScreen ()
  obtain ⟨failed, succeeded⟩ := clicks.forgiven.1 rfl
  refine ⟨failed, succeeded, ?_⟩
  obtain ⟨-, lacking⟩ := scrolls ⟨.gesture .vertical rows, 10, 1⟩
  obtain ⟨parts, isMade, -, fatal⟩ := lacking rfl
  have noLook : ∀ other, ({} : Device).lookUp rows.query (.ok none) ≠
      ({} : Device).lookUp row.query other := by
    have different : rows.query ≠ row.query := by decide
    simp [Device.lookUp, different]
  obtain ⟨way, report, member⟩ := isMade.exists_step noLook (by simp)
  exact fatal way report _ _ member (.container rfl)

end Executor

end Screenplay
