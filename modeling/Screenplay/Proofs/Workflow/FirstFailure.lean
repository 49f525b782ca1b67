import Screenplay.Proofs.Workflow.Location
import Screenplay.Proofs.Workflow.Means

/-!
# The first failure of a run

When a request fails while a workflow is carried out, the run ends there, and its
error names the task to which the request belongs.  Which task that is follows from
the run: some tasks have been carried out as often as they say and the next one a
number of times, all without an error, and the request fails while the action of that
task is carried out once more.
-/

namespace Screenplay

variable {State : Type}

namespace Executor

variable {executor : Executor} {engine : Engine State} {workflow : String} {state : State}
  {before after : List Event} {request : Request} {error : RunError}

/-- The error that a run ends with when an action of a task ends with an error. -/
def blame (workflow : String) (task : Task) (error : RunError) : RunError :=
  .taskFailed task.name task.action.kind.name workflow error

/-- An event is the last one of the action of a task, and what comes before the action
ends without an error. -/
def FailsIn (executor : Executor) (engine : Engine State) (workflow : String) (state : State)
    (earlier : List Task) (task : Task) (before : List Event) (failure : Event) : Prop :=
  ∃ times middle events, times ≤ task.repeatCount.toNat ∧
    (executor.upTo workflow earlier task times).run engine state = (.ok (), middle) ∧
    before = (executor.upTo workflow earlier task times).events engine state ++ events ∧
    (executor.perform task.action).events engine middle = events ++ [failure]

/-! ## One task -/

theorem performTask_failsFast (task : Task) :
    FailsFast (blame workflow task) (executor.performTask workflow task) :=
  .bind (.mapError (executor.perform_failsFast _)) fun _ => .pause _

/-- A failure of a task is the last event of its action. -/
theorem perform_failed {task : Task}
    (failed : (executor.performTask workflow task).events engine state =
      before ++ .asked request (.error error) :: after) :
    (executor.perform task.action).events engine state =
      before ++ [.asked request (.error error)] := by
  obtain ⟨rest, inAction⟩ := perform_asked failed
  rcases (executor.perform_failsFast task.action).ends inAction with ⟨rfl, -⟩
  exact inAction

/-! ## Workflows -/

/-- The place of a failure is where the run ends. -/
theorem runTasks_failed {tasks : List Task}
    (failed : (executor.runTasks workflow tasks).events engine state =
      before ++ .asked request (.error error) :: after) :
    after = [] ∧ ∃ earlier task rest, tasks = earlier ++ task :: rest ∧
      executor.FailsIn engine workflow state earlier task before
        (.asked request (.error error)) ∧
      ((executor.runTasks workflow tasks).run engine state).1 =
        .error (blame workflow task error) := by
  obtain ⟨earlier, task, later, past, middle, inner, rest, rfl, comes, rfl, inTask⟩ :=
    event_of_runTasks failed
  obtain ⟨rfl, ended⟩ := (performTask_failsFast task).ends inTask
  obtain ⟨ran, seen⟩ := comes.of_error later (Prod.ext ended rfl)
  rw [seen, inTask, List.append_assoc, List.append_cancel_left_eq, List.append_cancel_left_eq,
    List.cons.injEq] at failed
  obtain ⟨times, within, came, rfl⟩ := comes
  exact ⟨failed.2.symm, earlier, task, later, rfl,
    ⟨times, middle, inner, within, came, rfl, perform_failed inTask⟩, congrArg Prod.fst ran⟩

theorem runWorkflow_failed {config : Config} {name : String}
    (failed : (executor.runWorkflow config name).events engine state =
      before ++ .asked request (.error error) :: after) :
    after = [] ∧ ∃ workflow earlier task rest,
      config.workflow name = .ok workflow ∧ workflow.tasks = earlier ++ task :: rest ∧
      executor.FailsIn engine name state earlier task before (.asked request (.error error)) ∧
      ((executor.runWorkflow config name).run engine state).1 = .error (blame name task error) := by
  cases defined : config.workflow name with
  | error missing => simp [events_runWorkflow_of_undefined defined] at failed
  | ok workflow =>
      rw [runWorkflow_eq_runTasks defined] at failed ⊢
      rcases runTasks_failed failed with ⟨rfl, earlier, task, rest, split, located, ended⟩
      exact ⟨rfl, workflow, earlier, task, rest, rfl, split, located, ended⟩

/-- A request that fails while a workflow is carried out is the last event of the run,
which ends with its error and names the task to which the request belongs.  In a run
that ends without an error no request fails. -/
theorem runWorkflow_ends_at_first_failure (executor : Executor) (engine : Engine State)
    (config : Config) (name : String) (state : State) :
    (∀ before request error after,
      (executor.runWorkflow config name).events engine state =
          before ++ .asked request (.error error) :: after →
        after = [] ∧ ∃ workflow earlier task rest,
          config.workflow name = .ok workflow ∧ workflow.tasks = earlier ++ task :: rest ∧
          executor.FailsIn engine name state earlier task before
            (.asked request (.error error)) ∧
          ((executor.runWorkflow config name).run engine state).1 =
            .error (.taskFailed task.name task.action.kind.name name error)) ∧
      (((executor.runWorkflow config name).run engine state).1 = .ok () →
        ∀ request error, .asked request (.error error) ∉
          (executor.runWorkflow config name).events engine state) := by
  refine ⟨fun before request error after failed => runWorkflow_failed failed, ?_⟩
  intro succeeded request error member
  rcases List.append_of_mem member with ⟨before, after, split⟩
  rcases runWorkflow_failed split with ⟨-, workflow, earlier, task, rest, -, -, -, ended⟩
  rw [succeeded] at ended
  cases ended

/-- An engine on which one key can be pressed, after which every request fails. -/
def dozing : Engine Nat where
  answer
    | .pressKey _, 0 => (.ok (), 1)
    | _, presses => (.error (.platform "asleep"), presses)
  wait _ presses := presses

/-- A configuration with a workflow that presses two keys. -/
def twoKeys : Config :=
  ({} : Config).insertWorkflow
    ⟨"leave", [⟨"go back", .press "BACK", 0⟩, ⟨"go home", .press "HOME", 2⟩]⟩

theorem runWorkflow_ends_at_first_failure_dozing :
    (runWorkflow {} twoKeys "leave").events dozing 0 =
        [.asked (.pressKey Key.backCode) (.ok ()), .waited (.ofSeconds 1),
          .asked (.pressKey Key.homeCode) (.error (.platform "asleep"))] ∧
      ∃ task : Task, ((runWorkflow {} twoKeys "leave").run dozing 0).1 =
        .error (.taskFailed task.name task.action.kind.name "leave" (.platform "asleep")) := by
  have failed : (runWorkflow {} twoKeys "leave").events dozing 0 =
      [.asked (.pressKey Key.backCode) (.ok ()), .waited (.ofSeconds 1)] ++
        .asked (.pressKey Key.homeCode) (.error (.platform "asleep")) :: [] := rfl
  rcases (runWorkflow_ends_at_first_failure {} dozing twoKeys "leave" 0).1 _ _ _ _ failed with
    ⟨-, _, _, task, _, -, -, -, ended⟩
  exact ⟨failed, task, ended⟩

end Executor

end Screenplay
