import Screenplay.Proofs.Script.Sequence
import Screenplay.Workflow.Executor

/-!
# Places in the run of a workflow

Every request of a workflow has its place.  Some tasks have been carried out as often as
they say and the next one a number of times, all without an error, and the request is made
while the action of that task is carried out once more.  From such a place a workflow goes
on with this action, the remaining times and the tasks that are left.
-/

namespace Screenplay

variable {State : Type}

namespace Executor

variable {executor : Executor} {engine : Engine State} {workflow : String} {state middle : State}
  {earlier later : List Task} {task : Task} {past before after : List Event} {request : Request}
  {answer : Except RunError request.Answer}

/-- What a workflow does before it carries out a task for some time: the tasks before
it, and the task itself some times. -/
def upTo (executor : Executor) (workflow : String) (earlier : List Task) (task : Task)
    (times : Nat) : Script Unit := do
  executor.runTasks workflow earlier
  repeated (executor.performTask workflow task) times

/-- A workflow comes to a task: the tasks before it and the task itself some times have
been carried out without an error, and it is to be carried out once more. -/
def ComesTo (executor : Executor) (engine : Engine State) (workflow : String) (state : State)
    (earlier : List Task) (task : Task) (past : List Event) (middle : State) : Prop :=
  ∃ times, times ≤ task.repeatCount.toNat ∧
    (executor.upTo workflow earlier task times).run engine state = (.ok (), middle) ∧
    past = (executor.upTo workflow earlier task times).events engine state

/-! ## Before and after a place -/

theorem repeated_add (script : Script Unit) (times more : Nat) :
    repeated script (times + more) = repeated script times >>= fun _ => repeated script more := by
  induction times with
  | zero => rw [Nat.zero_add, repeated, pure_bind]
  | succ times ih => rw [Nat.add_right_comm, repeated, repeated, ih, bind_assoc]

theorem runTasks_append (executor : Executor) (workflow : String) (first second : List Task) :
    executor.runTasks workflow (first ++ second) =
      executor.runTasks workflow first >>= fun _ => executor.runTasks workflow second := by
  induction first with
  | nil => rw [List.nil_append, runTasks, pure_bind]
  | cons task rest ih => rw [List.cons_append, runTasks, runTasks, ih, bind_assoc]

/-- What comes before a task after the first is the first one and then what comes before
it among the rest. -/
theorem upTo_cons (executor : Executor) (workflow : String) (first : Task) (earlier : List Task)
    (task : Task) (times : Nat) :
    executor.upTo workflow (first :: earlier) task times =
      executor.runTask workflow first >>= fun _ => executor.upTo workflow earlier task times :=
  bind_assoc ..

/-- A workflow that has come to a task carries it out, then the remaining times, and then
what is left. -/
theorem runTasks_eq_upTo (executor : Executor) (workflow : String) (earlier later : List Task)
    {times : Nat} (within : times ≤ task.repeatCount.toNat) :
    executor.runTasks workflow (earlier ++ task :: later) =
      executor.upTo workflow earlier task times >>= fun _ =>
        executor.performTask workflow task >>= fun _ =>
          repeated (executor.performTask workflow task) (task.repeatCount.toNat - times) >>=
            fun _ => executor.runTasks workflow later := by
  have split : task.repeatCount.toNat + 1 = times + (task.repeatCount.toNat - times + 1) := by
    omega
  rw [runTasks_append, runTasks, runTask, split, repeated_add, repeated, upTo]
  simp only [bind_assoc]

theorem ComesTo.cons {first : Task} {start : State}
    (ran : (executor.runTask workflow first).run engine state = (.ok (), start))
    (comes : executor.ComesTo engine workflow start earlier task past middle) :
    executor.ComesTo engine workflow state (first :: earlier) task
      ((executor.runTask workflow first).events engine state ++ past) middle := by
  obtain ⟨times, within, came, rfl⟩ := comes
  refine ⟨times, within, ?_, ?_⟩
  · rw [upTo_cons, Script.run_bind_of_ok ran, came]
  · rw [upTo_cons, Script.events_bind_of_ok ran]

/-- A workflow that comes to a task which ends with an error ends with it. -/
theorem ComesTo.of_error {error : RunError} {last : State} (later : List Task)
    (comes : executor.ComesTo engine workflow state earlier task past middle)
    (failed : (executor.performTask workflow task).run engine middle = (.error error, last)) :
    (executor.runTasks workflow (earlier ++ task :: later)).run engine state =
        (.error error, last) ∧
      (executor.runTasks workflow (earlier ++ task :: later)).events engine state =
        past ++ (executor.performTask workflow task).events engine middle := by
  obtain ⟨times, within, came, rfl⟩ := comes
  rw [runTasks_eq_upTo executor workflow earlier later within]
  constructor
  · rw [Script.run_bind_of_ok came, Script.run_bind_of_error failed]
  · rw [Script.events_bind_of_ok came, Script.events_bind_of_error failed]

/-! ## The place of an event -/

/-- An event of a script that is carried out again and again belongs to one of the times. -/
theorem event_of_repeated {script : Script Unit} {times : Nat} {event : Event}
    (happened : (repeated script times).events engine state = before ++ event :: after) :
    ∃ count middle inner rest, count < times ∧
      (repeated script count).run engine state = (.ok (), middle) ∧
      before = (repeated script count).events engine state ++ inner ∧
      script.events engine middle = inner ++ event :: rest := by
  induction times generalizing state before with
  | zero => simp [repeated, Script.events, pure] at happened
  | succ times ih =>
      rcases Script.event_of_bind happened with ⟨rest, first⟩ | ⟨_, start, more, ran, rfl, others⟩
      · exact ⟨0, state, before, rest, Nat.succ_pos _, rfl, rfl, first⟩
      · obtain ⟨count, middle, inner, rest, below, counted, rfl, inLast⟩ := ih others
        refine ⟨count + 1, middle, inner, rest, Nat.succ_lt_succ below, ?_, ?_, inLast⟩
        · rw [repeated, Script.run_bind_of_ok ran, counted]
        · rw [repeated, Script.events_bind_of_ok ran, List.append_assoc]

/-- An event of a workflow belongs to a task to which the workflow has come. -/
theorem event_of_runTasks {tasks : List Task} {event : Event}
    (happened : (executor.runTasks workflow tasks).events engine state =
      before ++ event :: after) :
    ∃ earlier task later past middle inner rest, tasks = earlier ++ task :: later ∧
      executor.ComesTo engine workflow state earlier task past middle ∧
      before = past ++ inner ∧
      (executor.performTask workflow task).events engine middle = inner ++ event :: rest := by
  induction tasks generalizing state before with
  | nil => simp [runTasks, Script.events, pure] at happened
  | cons task tasks ih =>
      rcases Script.event_of_bind happened with ⟨_, inTask⟩ | ⟨_, start, more, ran, rfl, others⟩
      · obtain ⟨times, middle, inner, rest, below, came, rfl, inLast⟩ := event_of_repeated inTask
        exact ⟨[], task, tasks, _, middle, inner, rest, rfl,
          ⟨times, Nat.le_of_lt_succ below, came, rfl⟩, rfl, inLast⟩
      · obtain ⟨earlier, other, later, past, middle, inner, rest, rfl, comes, rfl, inLast⟩ :=
          ih others
        exact ⟨task :: earlier, other, later, _, middle, inner, rest, rfl, comes.cons ran,
          (List.append_assoc ..).symm, inLast⟩

/-- A request of a task is one of its action, since a pause asks for nothing. -/
theorem perform_asked
    (happened : (executor.performTask workflow task).events engine state =
      before ++ .asked request answer :: after) :
    ∃ rest, (executor.perform task.action).events engine state =
      before ++ .asked request answer :: rest := by
  rcases Script.event_of_bind happened with ⟨rest, inAction⟩ | ⟨_, middle, start, -, -, inPause⟩
  · rw [Script.events_mapError] at inAction
    exact ⟨rest, inAction⟩
  · cases start with
    | nil => simp [Script.pause, Script.events] at inPause
    | cons event rest => simp [Script.pause, Script.events, pure] at inPause

/-! ## Workflows -/

/-- A workflow that is not defined is not begun. -/
theorem events_runWorkflow_of_undefined {config : Config} {name : String} {missing : ConfigError}
    (undefined : config.workflow name = .error missing) :
    (executor.runWorkflow config name).events engine state = [] := by
  rw [runWorkflow, undefined]
  rfl

theorem runWorkflow_eq_runTasks {config : Config} {name : String} {workflow : Workflow}
    (defined : config.workflow name = .ok workflow) :
    executor.runWorkflow config name = executor.runTasks name workflow.tasks := by
  rw [runWorkflow, defined]
  rfl

/-- The place of a request of a workflow. -/
theorem runWorkflow_asked {config : Config} {name : String}
    (happened : (executor.runWorkflow config name).events engine state =
      before ++ .asked request answer :: after) :
    ∃ workflow, config.workflow name = .ok workflow ∧
      ∃ earlier task later past middle inner rest, workflow.tasks = earlier ++ task :: later ∧
        executor.ComesTo engine name state earlier task past middle ∧ before = past ++ inner ∧
        (executor.perform task.action).events engine middle =
          inner ++ .asked request answer :: rest := by
  cases defined : config.workflow name with
  | error missing => simp [events_runWorkflow_of_undefined defined] at happened
  | ok workflow =>
      rw [runWorkflow_eq_runTasks defined] at happened
      obtain ⟨earlier, task, later, past, middle, inner, _, split, comes, same, inTask⟩ :=
        event_of_runTasks happened
      obtain ⟨rest, inAction⟩ := perform_asked inTask
      exact ⟨workflow, rfl, earlier, task, later, past, middle, inner, rest, split, comes, same,
        inAction⟩

end Executor

end Screenplay
