import Screenplay.Proofs.Scrolling.Parts

/-!
# Searches are bounded and truthful

What a search does on an engine, about which nothing is known, not even that it answers
without errors: the parts of the run are in order and within the limit, no step acts more
than once, and the result is what the last look has answered.  If looking leaves the
engine as it is, a search for something that was just found is over with one look.
-/

namespace Screenplay

variable {State : Type}

/-- Looking for elements leaves an engine in the state in which it is. -/
def Engine.UnmovedByLooks (engine : Engine State) : Prop :=
  ∀ selector root timeout state,
    (engine.answer (.find selector root timeout) state).2 = state

namespace Search

variable {search : Search} {scroll : Scroll} {target : Selector} {description : String}
  {engine : Engine State} {state : State} {parts : List Part} {events : List Event}
  {answer : Except RunError (Option Element)}

/-- A search whose last part is a look has this look as its last event. -/
theorem PartsOf.exists_last (isMade : PartsOf search scroll target description parts events)
    (ends : EndsWith parts answer) :
    ∃ earlier, events = earlier ++ [search.device.lookUp target answer] := by
  obtain ⟨earlier, rfl⟩ := ends
  refine ⟨earlier.flatMap (Part.events search target), ?_⟩
  rw [isMade.events_eq, List.flatMap_append, List.flatMap_singleton, Part.events]

/-- A search that finds its target at once makes one look. -/
theorem find_of_answer {element : Element} {after : State}
    (answered : engine.answer (.find target none (some search.device.findTimeout)) state =
      (.ok (some element), after)) :
    (search.find scroll target description).run engine state = (.ok (some element), after) ∧
      (search.find scroll target description).events engine state =
        [search.device.lookUp target (.ok (some element))] := by
  have looked : (search.device.find target).run engine state = (.ok (some element), after) :=
    answered
  have seen : (search.device.find target).events engine state =
      [search.device.lookUp target (engine.answer
        (.find target none (some search.device.findTimeout)) state).1] := rfl
  rw [answered] at seen
  constructor
  · rw [find, Script.run_bind, looked]
    rfl
  · rw [find, Script.events_bind, looked, seen]
    rfl

/-- On an engine that looks leave as it is, a search that ended with a look that found
the target finds it again at once. -/
theorem find_again (unmoved : engine.UnmovedByLooks) {element : Element} {earlier : List Event}
    (last : (search.find scroll target description).events engine state =
      earlier ++ [search.device.lookUp target (.ok (some element))]) :
    let after := ((search.find scroll target description).run engine state).2
    (search.find scroll target description).run engine after = (.ok (some element), after) ∧
      (search.find scroll target description).events engine after =
        [search.device.lookUp target (.ok (some element))] := by
  intro after
  obtain ⟨middle, answered⟩ := Script.exists_answer_of_last last
  have same : after = middle := (congrArg Prod.snd answered).symm.trans (unmoved ..)
  rw [← same] at answered
  exact find_of_answer answered

/-- What a search does on any engine: its parts are in order and within the limit, a step
acts at most once, and what it comes back with is what the last look has answered. -/
theorem find_bounded_and_truthful (search : Search) (scroll : Scroll) (target : Selector)
    (description : String) (engine : Engine State) (state : State) :
    let sought := search.find scroll target description
    let ended := sought.run engine state
    let events := sought.events engine state
    ∃ parts, PartsOf search scroll target description parts events ∧
      Bounded search.maxSteps parts ∧
      (∀ way report made, .step way report made ∈ parts →
        made.countP (·.target?.isSome) ≤ 1) ∧
      (∀ element, ended.1 = .ok (some element) →
        EndsWith parts (.ok (some element)) ∧
        (∃ earlier, events = earlier ++ [search.device.lookUp target (.ok (some element))]) ∧
        (engine.UnmovedByLooks →
          sought.run engine ended.2 = ended ∧
          sought.events engine ended.2 =
            [search.device.lookUp target (.ok (some element))])) ∧
      (ended.1 = .ok none →
        EndsWith parts (.ok none) ∧
        (∃ earlier, events = earlier ++ [search.device.lookUp target (.ok none)]) ∧
        ((reports .forward parts).getLast? = some (.ok false) ∨
          (reports .forward parts).length = search.maxSteps)) := by
  intro sought ended events
  obtain ⟨parts, isMade, bounded, truthful⟩ :=
    course_find (Script.course_run engine sought state)
  refine ⟨parts, isMade, bounded, ?_, ?_, ?_⟩
  · intro way report made member
    exact step_acts_le_one (isMade.happen _ member)
  · intro element found
    have ends := truthful.found element found
    obtain ⟨earlier, last⟩ := isMade.exists_last ends
    refine ⟨ends, ⟨earlier, last⟩, fun unmoved => ?_⟩
    obtain ⟨ran, seen⟩ := find_again unmoved last
    exact ⟨ran.trans (Prod.ext found.symm rfl), seen⟩
  · intro missed
    obtain ⟨ends, stopped⟩ := truthful.missed missed
    exact ⟨ends, isMade.exists_last ends, stopped⟩

/-- Four pages, the third of which shows a row. -/
def fourPages : Engine Nat where
  answer
    | .find (.textContains _) _ _, page =>
        (.ok (if page = 2 then some { handle := "row" } else none), page)
    | .find _ _ _, page => (.ok (some { handle := "pages", scrollable := true }), page)
    | .scroll _ .down _, page => (.ok (), min (page + 1) 3)
    | .scroll _ _ _, page => (.ok (), page - 1)
    | .dump, page => (.ok (toString page), page)
    | _, page => (.error (.platform "out of order"), page)
  wait _ page := page

theorem fourPages_unmovedByLooks : fourPages.UnmovedByLooks := by
  intro selector root timeout page
  cases selector <;> rfl

/-- A search for the row, with a limit of steps. -/
def seekRow (limit : Nat) : Script (Option Element) :=
  ({ maxSteps := limit } : Search).find
    ⟨.gesture .vertical
      ⟨.className, "pages", none, .className none "pages", rfl, Descriptor.trimPackage_none, rfl⟩,
      10, 1⟩
    (.textContains "row") "find"

/-- From the second page the row is found after three steps, and then again without one.
With a limit of one step it is missed from the first page. -/
theorem find_bounded_and_truthful_fourPages :
    (seekRow 9).run fourPages 1 = (.ok (some { handle := "row" }), 2) ∧
      (seekRow 9).events fourPages 2 =
        [({} : Device).lookUp (.textContains "row") (.ok (some { handle := "row" }))] ∧
      (seekRow 1).run fourPages 0 = (.ok none, 1) ∧
      ∃ earlier, (seekRow 1).events fourPages 0 =
        earlier ++ [({} : Device).lookUp (.textContains "row") (.ok none)] := by
  have found : (seekRow 9).run fourPages 1 = (.ok (some { handle := "row" }), 2) := by rfl
  have missed : (seekRow 1).run fourPages 0 = (.ok none, 1) := by rfl
  obtain ⟨_, _, _, _, finding, _⟩ :=
    find_bounded_and_truthful { maxSteps := 9 } _ (.textContains "row") "find" fourPages 1
  obtain ⟨_, _, _, _, _, missing⟩ :=
    find_bounded_and_truthful { maxSteps := 1 } _ (.textContains "row") "find" fourPages 0
  obtain ⟨-, -, again⟩ := finding _ (congrArg Prod.fst found)
  obtain ⟨-, last, -⟩ := missing (congrArg Prod.fst missed)
  exact ⟨found, (again fourPages_unmovedByLooks).2, missed, last⟩

end Search

end Screenplay
