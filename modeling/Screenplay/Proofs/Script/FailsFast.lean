import Screenplay.Script.Engine

/-!
# Scripts that stop at a failure

A script sees the failures of its requests and could go on after one.  The scripts
of devices, searches and tasks do not: they end with the error at once, as it is or
in another form.  Being of this kind is a matter of the tree alone, and whatever an
engine does, the run of such a script ends at the first request that fails.
-/

namespace Screenplay

/-- Scripts that end at a request that fails, with its error in another form. -/
inductive FailsFast {α : Type} (change : RunError → RunError) : Script α → Prop where
  | done (result : Except RunError α) : FailsFast change (.done result)
  | ask {request : Request} {next : Except RunError request.Answer → Script α}
      (failure : ∀ error, next (.error error) = .done (.error (change error)))
      (success : ∀ answer, FailsFast change (next (.ok answer))) :
      FailsFast change (.ask request next)
  | wait {duration : Duration} {next : Script α} (rest : FailsFast change next) :
      FailsFast change (.wait duration next)

namespace FailsFast

variable {State α β : Type} {change : RunError → RunError}

/-! ## Combinations -/

theorem bind {script : Script α} {next : α → Script β} (first : FailsFast change script)
    (rest : ∀ result, FailsFast change (next result)) : FailsFast change (script >>= next) := by
  change FailsFast change (script.bind next)
  induction first with
  | done result =>
      cases result with
      | ok result => exact rest result
      | error error => exact .done _
  | ask failure _ ih =>
      refine .ask (fun error => ?_) ih
      rw [failure, Script.bind]
  | wait _ ih => exact .wait ih

theorem pure (result : α) : FailsFast change (Pure.pure result : Script α) :=
  .done _

theorem fail (error : RunError) : FailsFast change (Script.fail error : Script α) :=
  .done _

theorem pause (duration : Duration) : FailsFast change (Script.pause duration) :=
  .wait (.done _)

theorem perform (request : Request) : FailsFast id (Script.perform request) :=
  .ask (fun _ => rfl) fun _ => .done _

theorem mapError {script : Script α} (failsFast : FailsFast id script) :
    FailsFast change (script.mapError change) := by
  induction failsFast with
  | done result => exact .done _
  | ask failure _ ih =>
      refine .ask (fun error => ?_) ih
      rw [failure]
      rfl
  | wait _ ih => exact .wait ih

/-! ## Runs -/

/-- A request that fails is the last event of a run, which ends with the error. -/
theorem ends {script : Script α} (failsFast : FailsFast change script) {engine : Engine State}
    {state : State} {before after : List Event} {request : Request} {error : RunError}
    (failed : script.events engine state = before ++ .asked request (.error error) :: after) :
    after = [] ∧ (script.run engine state).1 = .error (change error) := by
  induction failsFast generalizing state before with
  | done => simp [Script.events] at failed
  | @ask asked next failure _ ih =>
      rcases answered : engine.answer asked state with ⟨answer, middle⟩
      simp only [Script.events, Script.run, answered] at failed ⊢
      cases answer with
      | error other =>
          simp only [failure, Script.events] at failed
          cases before with
          | nil =>
              simp only [List.nil_append, List.cons.injEq, Event.asked.injEq] at failed
              rcases failed with ⟨⟨rfl, same⟩, rfl⟩
              cases same
              exact ⟨rfl, by rw [failure]; rfl⟩
          | cons event rest => simp at failed
      | ok answer =>
          cases before with
          | nil =>
              simp only [List.nil_append, List.cons.injEq, Event.asked.injEq] at failed
              rcases failed with ⟨⟨rfl, same⟩, -⟩
              cases same
          | cons event rest =>
              rw [List.cons_append, List.cons.injEq] at failed
              exact ih answer failed.2
  | wait _ ih =>
      simp only [Script.events, Script.run] at failed ⊢
      cases before with
      | nil => simp at failed
      | cons event rest =>
          rw [List.cons_append, List.cons.injEq] at failed
          exact ih failed.2

end FailsFast

end Screenplay
