import Mathlib.Data.List.TakeWhile
import Screenplay.Proofs.Document.RoundTrip
import Screenplay.Proofs.Workflow.FirstFailure
import Screenplay.Proofs.Workflow.Means
import Screenplay.Proofs.Workflow.Optional

/-!
# Reasons of failures

What can go wrong when a workflow of a configuration that was read and layered is carried
out.  If the workflow is not defined, that is an error of the configuration, and the device
is left alone.  Otherwise a task fails, and the error names the task and its reason.  As long
as the device fails only in ways of its platform, the kind of the task says what the reason
may be.

No text of such a configuration is blank, so that no command or package is refused for it.
-/

namespace Screenplay

variable {State α : Type}

/-- A failure of the platform. -/
def RunError.IsPlatform (error : RunError) : Prop :=
  ∃ description, error = .platform description

/-- An engine fails only as platforms do. -/
def Engine.FailsAsPlatform (engine : Engine State) : Prop :=
  ∀ request state error, (engine.answer request state).1 = .error error → error.IsPlatform

/-- The reasons for which a task of some kind may fail. -/
def TaskKind.MayFailFor (kind : TaskKind) (reason : RunError) : Prop :=
  kind.MayRaise reason ∨ reason.IsPlatform

theorem TaskKind.MayFailFor.isMissingElement_iff {kind : TaskKind} {reason : RunError}
    (mayFail : kind.MayFailFor reason) :
    reason.isMissingElement = true ↔ ∃ description, reason = .missingElement description := by
  rcases mayFail with own | ⟨description, rfl⟩
  · cases reason with
    | taskFailed => exact own.elim
    | _ => simp [RunError.isMissingElement]
  · simp [RunError.isMissingElement]

/-! ## Blank texts -/

theorem IsPlain.isBlankText_eq_false {text : String} (plain : IsPlain text) :
    Text.isBlankText text = false := by
  obtain ⟨trimmed, nonempty⟩ := plain
  rw [Bool.eq_false_iff]
  intro blank
  apply nonempty
  have dropped : text.toList.dropWhile Text.isBlank = [] :=
    List.dropWhile_eq_nil_iff.2 (List.all_eq_true.1 blank)
  rw [← trimmed, Text.trim, Text.trimChars, dropped]
  rfl

theorem Task.Sound.not_isBlank {task : Task} (sound : task.Sound) : ¬ task.action.IsBlank := by
  rintro ⟨words, among, blank⟩
  rw [(sound.text words among).isBlankText_eq_false] at blank
  cases blank

namespace Executor

variable {executor : Executor} {engine : Engine State} {trusted allowed : RunError → Prop}

/-! ## Tasks -/

/-- One of the tasks of a workflow has failed for a reason of its kind, which the error
says. -/
def BlamesTask (workflow : String) (tasks : List Task) (error : RunError) : Prop :=
  ∃ task ∈ tasks, ∃ reason, task.action.kind.MayFailFor reason ∧ error = blame workflow task reason

theorem performTask_failsWith {tasks : List Task} {task : Task} (member : task ∈ tasks)
    (sound : task.Sound) (workflow : String) :
    (executor.performTask workflow task).FailsWith RunError.IsPlatform
      (BlamesTask workflow tasks) := by
  have failsWith : (executor.perform task.action).FailsWith RunError.IsPlatform
      task.action.kind.MayFailFor := by
    refine (executor.perform_madeOf task.action).failsWith (fun _ platform => .inr platform) ?_
    rintro error (own | ⟨blank, -⟩)
    · exact .inl own
    · exact absurd blank sound.not_isBlank
  exact .bind (failsWith.mapError fun reason mayFail => ⟨task, member, reason, mayFail, rfl⟩)
    fun _ => .pause _

theorem repeated_failsWith {script : Script Unit} (failsWith : script.FailsWith trusted allowed)
    (times : Nat) : (repeated script times).FailsWith trusted allowed := by
  induction times with
  | zero => exact .pure _
  | succ times ih => exact .bind failsWith fun _ => ih

theorem runTasks_failsWith {workflow : String} {tasks : List Task}
    (each : ∀ task ∈ tasks, (executor.performTask workflow task).FailsWith trusted allowed) :
    (executor.runTasks workflow tasks).FailsWith trusted allowed := by
  induction tasks with
  | nil => exact .pure _
  | cons task rest ih =>
      rw [List.forall_mem_cons] at each
      exact .bind (repeated_failsWith each.1 _) fun _ => ih each.2

/-! ## Workflows -/

/-- As long as the device fails only as platforms do, a workflow that is defined fails
because one of its tasks does. -/
theorem runWorkflow_failsWith {config : Config} {name : String} {workflow : Workflow}
    (defined : config.workflow name = .ok workflow) (sound : workflow.Sound name) :
    (executor.runWorkflow config name).FailsWith RunError.IsPlatform
      (BlamesTask name workflow.tasks) := by
  rw [runWorkflow_eq_runTasks defined]
  exact runTasks_failsWith fun task member =>
    performTask_failsWith member (sound.tasks task member) name

/-- On a device that fails only as platforms do, a workflow of a configuration that was read
and layered fails with an error of the configuration exactly if it is not defined, and then
asks for nothing.  Every other failure is that of a task, for a reason of its kind, and an
element is missing exactly if that is the reason. -/
theorem runWorkflow_fails_for_a_reason (executor : Executor) (engine : Engine State)
    {config : Config} (layered : config.Layered) (platform : engine.FailsAsPlatform)
    (name : String) (state : State) :
    let script := executor.runWorkflow config name
    let result := (script.run engine state).1
    (config.workflows.get? name = none →
      result = .error (.configuration (.missingKey .workflows name)) ∧
        script.events engine state = []) ∧
    (∀ error, result = .error (.configuration error) → config.workflows.get? name = none) ∧
    ∀ error, result = .error error → (∀ other, error ≠ .configuration other) →
      ∃ workflow task reason, config.workflow name = .ok workflow ∧ task ∈ workflow.tasks ∧
        error = .taskFailed task.name task.action.kind.name name reason ∧
        task.action.kind.MayFailFor reason ∧
        (error.isMissingElement = true ↔ ∃ description, reason = .missingElement description) := by
  intro script result
  cases found : config.workflows.get? name with
  | none =>
      have undefined : config.workflow name = .error (.missingKey .workflows name) := by
        rw [Config.workflow, NameMap.get, found]
      have failed : result = .error (.configuration (.missingKey .workflows name)) := by
        simp only [result, script, runWorkflow, undefined]
        rfl
      refine ⟨fun _ => ⟨failed, events_runWorkflow_of_undefined undefined⟩, fun _ _ => rfl, ?_⟩
      intro error same noConfiguration
      rw [failed] at same
      cases same
      exact absurd rfl (noConfiguration _)
  | some workflow =>
      have defined : config.workflow name = .ok workflow := by
        rw [Config.workflow, NameMap.get, found]
      have failsWith : script.FailsWith RunError.IsPlatform (BlamesTask name workflow.tasks) :=
        runWorkflow_failsWith defined (layered.sound.workflows name workflow found).2
      refine ⟨fun missing => (by cases missing), ?_, ?_⟩
      · intro error failed
        obtain ⟨task, -, reason, -, same⟩ := failsWith.of_run platform failed
        cases same
      · intro error failed _
        obtain ⟨task, member, reason, mayFail, rfl⟩ := failsWith.of_run platform failed
        exact ⟨workflow, task, reason, defined, member, rfl, mayFail, mayFail.isMissingElement_iff⟩

theorem emptyScreen_failsAsPlatform : emptyScreen.FailsAsPlatform := by
  intro request state error failed
  cases request <;> cases failed <;> exact ⟨_, rfl⟩

/-- On an empty screen a workflow that was read fails for want of what it is to scroll, and
one that was not read for want of itself. -/
theorem runWorkflow_fails_for_a_reason_emptyScreen :
    ∃ config, Config.ofJson paddedDocument = .ok config ∧
      (runWorkflow {} config "leave").events emptyScreen () = [] ∧
      ∃ error, ((runWorkflow {} config "find").run emptyScreen ()).1 = .error error ∧
        (error.isMissingElement = true ∧ ∃ task description,
          error = .taskFailed task "SCROLL_TO_FIND_AND_CLICK" "find"
            (.missingElement description)) := by
  have layered := @Config.Layered.read paddedDocument _ rfl
  have left := runWorkflow_fails_for_a_reason {} emptyScreen layered emptyScreen_failsAsPlatform
    "leave" ()
  have found := runWorkflow_fails_for_a_reason {} emptyScreen layered emptyScreen_failsAsPlatform
    "find" ()
  refine ⟨_, rfl, (left.1 rfl).2, _, rfl, ?_⟩
  obtain ⟨_, _, reason, -, -, same, -, missing⟩ := found.2.2 _ rfl (by intro other same; cases same)
  obtain ⟨-, -, -, rfl⟩ := RunError.taskFailed.inj same
  exact ⟨missing.2 ⟨_, rfl⟩, _, _, rfl⟩

end Executor

end Screenplay
