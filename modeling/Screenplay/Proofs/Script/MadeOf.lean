import Screenplay.Proofs.Script.Course
import Screenplay.Proofs.Script.FailsFast

/-!
# What scripts are made of

A script is put together from single requests, pauses and failures.  What it may do, and
which errors it may end with of its own accord, can be read off its parts, and much else
follows from these two.

The error with which a script ends is either one of its own or that of a request.  So it is
known what a script may end with once it is known what requests may fail with.

Many scripts check first: as long as they may still end with an error of their own, they
do nothing but harmless things.  If such a script ends with an error and no request has
failed, it has done no harm.
-/

namespace Screenplay

variable {State α β : Type}

namespace Script

/-- A script does only what is allowed, and ends by itself only with errors of some kind. -/
inductive MadeOf (does : Event → Prop) (fails : RunError → Prop) :
    {α : Type} → Script α → Prop where
  | pure {α : Type} (value : α) : MadeOf does fails (Pure.pure value : Script α)
  | fail {α : Type} {error : RunError} (own : fails error) :
      MadeOf does fails (fail error : Script α)
  | perform {request : Request} (asks : ∀ answer, does (.asked request answer)) :
      MadeOf does fails (perform request)
  | pause {duration : Duration} (waits : does (.waited duration)) :
      MadeOf does fails (pause duration)
  | bind {α β : Type} {script : Script α} {next : α → Script β}
      (first : MadeOf does fails script) (rest : ∀ value, MadeOf does fails (next value)) :
      MadeOf does fails (script >>= next)

/-- As long as requests fail with trusted errors only, a script ends with no error but an
allowed one. -/
def FailsWith (trusted allowed : RunError → Prop) (script : Script α) : Prop :=
  ∀ ⦃events error⦄, script.Course events (.error error) →
    (∀ request failure, .asked request (.error failure) ∈ events → trusted failure) →
    allowed error

/-! ## The errors of scripts -/

namespace FailsWith

variable {trusted allowed : RunError → Prop}

theorem bind {script : Script α} {next : α → Script β} (first : script.FailsWith trusted allowed)
    (rest : ∀ value, (next value).FailsWith trusted allowed) :
    (script >>= next).FailsWith trusted allowed := by
  intro events error course trust
  rcases course.of_bind with ⟨other, failed, same⟩ | ⟨value, before, after, -, later, rfl⟩
  · cases same
    exact first failed trust
  · apply rest value later
    intro request failure member
    exact trust request failure (List.mem_append_right _ member)

theorem pure (value : α) : (Pure.pure value : Script α).FailsWith trusted allowed := by
  intro events error course
  cases (course_pure_iff.1 course).2

theorem pause (duration : Duration) : (Script.pause duration).FailsWith trusted allowed := by
  intro events error course
  cases course with
  | wait rest => cases (course_pure_iff.1 rest).2

theorem perform (request : Request) (admits : ∀ error, trusted error → allowed error) :
    (Script.perform request).FailsWith trusted allowed := by
  intro events error course trust
  rw [course_perform_iff.1 course] at trust
  exact admits error (trust request error (List.mem_singleton_self _))

/-- An error may be allowed in another form only. -/
theorem mapError {changed : RunError → Prop} {change : RunError → RunError} {script : Script α}
    (failsWith : script.FailsWith trusted allowed)
    (implies : ∀ error, allowed error → changed (change error)) :
    (script.mapError change).FailsWith trusted changed := by
  intro events error course trust
  obtain ⟨ended, before, same⟩ := course.of_mapError
  cases ended with
  | ok value => cases same
  | error other =>
      cases same
      exact implies other (failsWith before trust)

/-- On an engine that fails with trusted errors only, a script ends with allowed ones. -/
theorem of_run {engine : Engine State} {script : Script α} {state : State} {error : RunError}
    (failsWith : script.FailsWith trusted allowed)
    (trust : ∀ request middle failure,
      (engine.answer request middle).1 = .error failure → trusted failure)
    (failed : (script.run engine state).1 = .error error) : allowed error := by
  have course := course_run engine script state
  rw [failed] at course
  apply failsWith course
  intro request failure happened
  obtain ⟨middle, answered⟩ := exists_answer_of_mem happened
  exact trust request middle failure answered

end FailsWith

/-! ## What follows from the parts -/

namespace MadeOf

variable {does more : Event → Prop} {fails failsMore : RunError → Prop} {script : Script α}

theorem mono (made : script.MadeOf does fails) (allows : ∀ event, does event → more event)
    (admits : ∀ error, fails error → failsMore error) : script.MadeOf more failsMore := by
  induction made with
  | pure value => exact .pure value
  | fail own => exact .fail (admits _ own)
  | perform asks => exact .perform fun answer => allows _ (asks answer)
  | pause waits => exact .pause (allows _ waits)
  | bind _ _ first rest => exact .bind first rest

theorem ite {condition : Prop} [Decidable condition] {other : Script α}
    (holds : condition → script.MadeOf does fails)
    (otherwise : ¬ condition → other.MadeOf does fails) :
    (if condition then script else other).MadeOf does fails := by
  split
  next isTrue => exact holds isTrue
  next isFalse => exact otherwise isFalse

/-- Whatever the device answers, a script does what its parts do. -/
theorem does_of_mem {events : List Event} {result : Except RunError α} {event : Event}
    (made : script.MadeOf does fails) (course : script.Course events result)
    (member : event ∈ events) : does event := by
  induction made generalizing events with
  | pure value => simp [(course_pure_iff.1 course).1] at member
  | fail own => simp [(course_fail_iff.1 course).1] at member
  | perform asks =>
      rw [course_perform_iff.1 course, List.mem_singleton] at member
      exact member ▸ asks _
  | pause waits =>
      cases course with
      | wait rest =>
          rw [(course_pure_iff.1 rest).1, List.mem_singleton] at member
          exact member ▸ waits
  | bind _ _ first rest =>
      rcases course.of_bind with ⟨error, failed, -⟩ | ⟨value, before, after, begun, ended, rfl⟩
      · exact first failed member
      · exact (List.mem_append.1 member).elim (first begun) (rest value ended)

/-- A script ends with an error of its own or with one of its requests. -/
theorem failsWith {trusted allowed : RunError → Prop} (made : script.MadeOf does fails)
    (admits : ∀ error, trusted error → allowed error)
    (own : ∀ error, fails error → allowed error) : script.FailsWith trusted allowed := by
  induction made with
  | pure value => exact .pure value
  | fail failure =>
      intro events error course _
      cases (course_fail_iff.1 course).2
      exact own _ failure
  | perform => exact .perform _ admits
  | pause => exact .pause _
  | bind _ _ first rest => exact .bind first rest

/-- A script that is put together like this does no more after a request that failed. -/
theorem failsFast (made : script.MadeOf does fails) : FailsFast id script := by
  induction made with
  | pure value => exact .pure value
  | fail => exact .fail _
  | perform => exact .perform _
  | pause => exact .pause _
  | bind _ _ first rest => exact .bind first rest

/-- Nothing is acted on by a script no part of which acts on anything. -/
theorem idle (made : script.MadeOf does fails)
    (quiet : ∀ event, does event → event.target? = none) : script.Idle :=
  fun _ _ course event member => quiet event (made.does_of_mem course member)

end MadeOf

/-! ## Scripts that check first -/

/-- A script does only harmless things until it can no longer end with an error of its own. -/
inductive ChecksFirst (does harmless : Event → Prop) (fails : RunError → Prop) :
    {α : Type} → Script α → Prop where
  | checks {α : Type} {script : Script α} (made : script.MadeOf harmless fails) :
      ChecksFirst does harmless fails script
  | sure {α : Type} {script : Script α} (made : script.MadeOf does fun _ => False) :
      ChecksFirst does harmless fails script
  | bind {α β : Type} {script : Script α} {next : α → Script β}
      (first : script.MadeOf harmless fails)
      (rest : ∀ value, ChecksFirst does harmless fails (next value)) :
      ChecksFirst does harmless fails (script >>= next)

namespace ChecksFirst

variable {does harmless : Event → Prop} {fails : RunError → Prop} {script : Script α}

/-- Anything may follow that cannot end with an error of its own. -/
theorem bind_sure {next : α → Script β} (checks : script.ChecksFirst does harmless fails)
    (rest : ∀ value, (next value).MadeOf does fun _ => False) :
    (script >>= next).ChecksFirst does harmless fails := by
  induction checks with
  | checks made => exact .bind made fun value => .sure (rest value)
  | sure made => exact .sure (made.bind rest)
  | bind first _ ih =>
      -- What follows is moved behind the checks, so that they still come first.
      rw [bind_assoc]
      exact .bind first fun value => ih value rest

/-- What is harmless may be done as well. -/
theorem madeOf (checks : script.ChecksFirst does harmless fails)
    (includes : ∀ event, harmless event → does event) : script.MadeOf does fails := by
  induction checks with
  | checks made => exact made.mono includes fun _ own => own
  | sure made => exact made.mono (fun _ done => done) fun _ never => never.elim
  | bind first _ rest => exact .bind (first.mono includes fun _ own => own) rest

/-- Whoever checks first has done no harm when a check fails. -/
theorem harmless_of_error {events : List Event} {error : RunError}
    (checks : script.ChecksFirst does harmless fails)
    (course : script.Course events (.error error))
    (answered : ∀ request failure, .asked request (.error failure) ∉ events) :
    ∀ event ∈ events, harmless event := by
  induction checks generalizing events with
  | checks made => exact fun event member => made.does_of_mem course member
  | sure made =>
      have never : False :=
        made.failsWith (fun _ never => never) (fun _ never => never) course answered
      exact never.elim
  | bind first _ rest =>
      intro event member
      rcases course.of_bind with ⟨_, failed, -⟩ | ⟨value, before, after, begun, later, rfl⟩
      · exact first.does_of_mem failed member
      · rcases List.mem_append.1 member with inFirst | inRest
        · exact first.does_of_mem begun inFirst
        · apply rest value later _ event inRest
          intro request failure inLater
          exact answered request failure (List.mem_append_right _ inLater)

end ChecksFirst

end Script

end Screenplay
