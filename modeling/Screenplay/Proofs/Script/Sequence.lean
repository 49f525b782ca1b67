import Screenplay.Script.Engine

/-!
# Scripts in sequence

What the run of two scripts in sequence is, once it is known how the first one ends, and
where the events of the run come from.
-/

namespace Screenplay

variable {State α β : Type}

/-- An event among two rows is in the first row, or in the second after all of the
first. -/
theorem event_of_append {first second before after : List Event} {event : Event}
    (split : first ++ second = before ++ event :: after) :
    (∃ rest, first = before ++ event :: rest) ∨
      ∃ between, before = first ++ between ∧ second = between ++ event :: after := by
  rcases List.append_eq_append_iff.1 split with ⟨between, same, later⟩ | ⟨rest, same, later⟩
  · exact .inr ⟨between, same, later⟩
  · cases rest with
    | nil => exact .inr ⟨[], by simpa using same.symm, later.symm⟩
    | cons other rest =>
        rw [List.cons_append, List.cons.injEq] at later
        rw [later.1]
        exact .inl ⟨rest, same⟩

/-- An event among many rows is in one of them, after some of the others. -/
theorem event_of_flatMap {values : List α} {image : α → List Event} {before after : List Event}
    {event : Event} (split : values.flatMap image = before ++ event :: after) :
    ∃ value ∈ values, ∃ earlier inner rest, image value = inner ++ event :: rest ∧
      before = earlier ++ inner := by
  induction values generalizing before with
  | nil => simp at split
  | cons value values ih =>
      rw [List.flatMap_cons] at split
      rcases event_of_append split with ⟨rest, here⟩ | ⟨between, rfl, later⟩
      · exact ⟨value, List.mem_cons_self .., [], before, rest, here, rfl⟩
      · obtain ⟨other, member, earlier, inner, rest, there, rfl⟩ := ih later
        exact ⟨other, List.mem_cons_of_mem _ member, _, inner, rest, there,
          (List.append_assoc ..).symm⟩

namespace Script

variable {engine : Engine State} {script : Script α} {state middle : State}

theorem run_bind_of_ok {value : α} (ran : script.run engine state = (.ok value, middle))
    (next : α → Script β) :
    (script >>= next).run engine state = (next value).run engine middle := by
  rw [run_bind, ran]

theorem events_bind_of_ok {value : α} (ran : script.run engine state = (.ok value, middle))
    (next : α → Script β) :
    (script >>= next).events engine state =
      script.events engine state ++ (next value).events engine middle := by
  rw [events_bind, ran]

/-- A script that ends with an error is not followed by another one. -/
theorem run_bind_of_error {error : RunError}
    (ran : script.run engine state = (.error error, middle)) (next : α → Script β) :
    (script >>= next).run engine state = (.error error, middle) := by
  rw [run_bind, ran]

theorem events_bind_of_error {error : RunError}
    (ran : script.run engine state = (.error error, middle)) (next : α → Script β) :
    (script >>= next).events engine state = script.events engine state := by
  rw [events_bind, ran, List.append_nil]

/-- An event of two scripts in sequence is one of the first script or, if that has a
result, one of the second. -/
theorem event_of_bind {next : α → Script β} {before after : List Event} {event : Event}
    (happened : (script >>= next).events engine state = before ++ event :: after) :
    (∃ rest, script.events engine state = before ++ event :: rest) ∨
      ∃ result middle earlier, script.run engine state = (.ok result, middle) ∧
        before = script.events engine state ++ earlier ∧
        (next result).events engine middle = earlier ++ event :: after := by
  rw [events_bind] at happened
  rcases event_of_append happened with inFirst | ⟨earlier, same, inSecond⟩
  · exact .inl inFirst
  · rcases ran : script.run engine state with ⟨error | result, middle⟩
    · simp [ran] at inSecond
    · rw [ran] at inSecond
      exact .inr ⟨result, middle, earlier, rfl, same, inSecond⟩

/-! ## Errors in another form -/

theorem run_mapError (engine : Engine State) (change : RunError → RunError) (script : Script α)
    (state : State) :
    (script.mapError change).run engine state =
      ((script.run engine state).1.mapError change, (script.run engine state).2) := by
  induction script generalizing state with
  | done result => rfl
  | ask request next ih => simp only [mapError, run, ih]
  | wait duration rest ih => simp only [mapError, run, ih]

theorem events_mapError (engine : Engine State) (change : RunError → RunError)
    (script : Script α) (state : State) :
    (script.mapError change).events engine state = script.events engine state := by
  induction script generalizing state with
  | done result => rfl
  | ask request next ih => simp only [mapError, events, ih]
  | wait duration rest ih => simp only [mapError, events, ih]

end Script

end Screenplay
