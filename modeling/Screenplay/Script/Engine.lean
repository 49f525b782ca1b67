import Screenplay.Script.Basic

/-!
# Engines

An engine answers the requests of scripts.  It has states, and it may answer or
fail as it likes.  Running a script on an engine gives the result of the script and
the state in which the engine is left; recording it gives the events of the run as
well.
-/

namespace Screenplay

/-- A device that answers requests, with states of the given type. -/
structure Engine (State : Type) where
  /-- Answer a request. -/
  answer : (request : Request) → State → Except RunError request.Answer × State
  /-- Let some time pass. -/
  wait : Duration → State → State

/-- What an engine was asked for, and how it answered. -/
inductive Event where
  | asked (request : Request) (answer : Except RunError request.Answer)
  | waited (duration : Duration)

namespace Script

variable {State α : Type}

/-- Run a script on an engine. -/
def run (engine : Engine State) : Script α → State → Except RunError α × State
  | .done result, state => (result, state)
  | .ask request next, state =>
      let (answer, state) := engine.answer request state
      (next answer).run engine state
  | .wait duration next, state => next.run engine (engine.wait duration state)

/-- The events of a run. -/
def events (engine : Engine State) : Script α → State → List Event
  | .done _, _ => []
  | .ask request next, state =>
      let (answer, state) := engine.answer request state
      .asked request answer :: (next answer).events engine state
  | .wait duration next, state =>
      .waited duration :: next.events engine (engine.wait duration state)

/-- A script that goes on with a result runs the rest where the first part ended. -/
theorem run_bind {β : Type} (engine : Engine State) (script : Script α)
    (next : α → Script β) (state : State) :
    (script >>= next).run engine state =
      match script.run engine state with
      | (.ok result, state) => (next result).run engine state
      | (.error error, state) => (.error error, state) := by
  change (script.bind next).run engine state = _
  induction script generalizing state with
  | done result => cases result <;> rfl
  | ask request continue_ ih => simp only [bind, run, ih]
  | wait duration rest ih => simp only [bind, run, ih]

/-- The events of the first part come first, then those of the rest, if it is run. -/
theorem events_bind {β : Type} (engine : Engine State) (script : Script α)
    (next : α → Script β) (state : State) :
    (script >>= next).events engine state =
      script.events engine state ++
        match script.run engine state with
        | (.ok result, state) => (next result).events engine state
        | (.error _, _) => [] := by
  change (script.bind next).events engine state = _
  induction script generalizing state with
  | done result => cases result <;> simp [bind, events, run]
  | ask request continue_ ih => simp only [bind, events, run, ih, List.cons_append]
  | wait duration rest ih => simp only [bind, events, run, ih, List.cons_append]

end Script

end Screenplay
