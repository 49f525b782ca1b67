import Screenplay.Proofs.NameMap
import Screenplay.Proofs.Workflow.Location

/-!
# Unrolling repeated tasks

A task that is carried out several times is the same as several tasks that are carried out
once.  A configuration in which every task is written out that often therefore has
workflows with the same scripts.

The times that a task is carried out are rounds: the action succeeds and a pause follows.
Either all rounds are made, one more than the count says, and the workflow goes on with
the next task, or the action fails after fewer rounds and the workflow ends there.
-/

namespace Screenplay

variable {State : Type}

/-- A task written out as often as it is carried out. -/
def Task.unrolled (task : Task) : List Task :=
  List.replicate (task.repeatCount.toNat + 1) { task with repeatCount := 0 }

/-- The workflow with all its tasks written out. -/
def Workflow.unrolled (workflow : Workflow) : Workflow :=
  { workflow with tasks := workflow.tasks.flatMap Task.unrolled }

/-- The configuration with all tasks written out. -/
def Config.unrolled (config : Config) : Config :=
  { config with workflows := config.workflows.map Workflow.unrolled }

theorem Config.workflow_unrolled (config : Config) (name : String) :
    config.unrolled.workflow name = (config.workflow name).map Workflow.unrolled := by
  rw [workflow, workflow, unrolled, NameMap.get, NameMap.get, NameMap.get?_map]
  cases config.workflows.get? name <;> rfl

namespace Executor

variable {executor : Executor} {engine : Engine State}
  {state middle start last : State} {task : Task} {rounds : List (List Event)}

/-! ## Scripts of unrolled tasks -/

/-- A task that is not repeated is carried out once. -/
theorem runTask_once (executor : Executor) (workflow : String) (task : Task) :
    executor.runTask workflow { task with repeatCount := 0 } =
      executor.performTask workflow task :=
  bind_pure_unit

theorem runTasks_replicate (executor : Executor) (workflow : String) (task : Task)
    (times : Nat) :
    executor.runTasks workflow (List.replicate times task) =
      repeated (executor.runTask workflow task) times := by
  induction times with
  | zero => rfl
  | succ times ih => rw [List.replicate_succ, runTasks, repeated, ih]

theorem runTasks_unrolled (executor : Executor) (workflow : String) (task : Task) :
    executor.runTasks workflow task.unrolled = executor.runTask workflow task := by
  rw [Task.unrolled, runTasks_replicate, runTask_once, runTask]

theorem runTasks_flatMap_unrolled (executor : Executor) (workflow : String)
    (tasks : List Task) :
    executor.runTasks workflow (tasks.flatMap Task.unrolled) =
      executor.runTasks workflow tasks := by
  induction tasks with
  | nil => rfl
  | cons task rest ih => rw [List.flatMap_cons, runTasks_append, runTasks_unrolled, ih, runTasks]

/-- Writing tasks out does not change what a workflow does. -/
theorem runWorkflow_unrolled (executor : Executor) (config : Config) (name : String) :
    executor.runWorkflow config.unrolled name = executor.runWorkflow config name := by
  rw [runWorkflow, runWorkflow, Config.workflow_unrolled]
  cases config.workflow name with
  | error missing => rfl
  | ok workflow => exact runTasks_flatMap_unrolled executor name workflow.tasks

/-! ## Rounds -/

/-- Rounds of an action from a state on, with the events of the action in each: it
succeeds, and a pause follows. -/
inductive Rounds (executor : Executor) (engine : Engine State) (action : Action) :
    State → List (List Event) → State → Prop where
  | nil (state : State) : Rounds executor engine action state [] state
  | cons {state middle last : State} {rounds : List (List Event)}
      (done : (executor.perform action).run engine state = (.ok (), middle))
      (rest : Rounds executor engine action (engine.wait executor.taskPause middle) rounds last) :
      Rounds executor engine action state
        ((executor.perform action).events engine state :: rounds) last

/-- The events of rounds, with the pause at the end of each. -/
def roundEvents (executor : Executor) (rounds : List (List Event)) : List Event :=
  rounds.flatMap (· ++ [.waited executor.taskPause])

theorem roundEvents_cons (executor : Executor) (round : List Event) :
    executor.roundEvents (round :: rounds) =
      round ++ .waited executor.taskPause :: executor.roundEvents rounds := by
  simp [roundEvents]

/-- A task whose action succeeds pauses. -/
theorem performTask_of_ok (workflow : String)
    (done : (executor.perform task.action).run engine state = (.ok (), middle)) :
    (executor.performTask workflow task).run engine state =
        (.ok (), engine.wait executor.taskPause middle) ∧
      (executor.performTask workflow task).events engine state =
        (executor.perform task.action).events engine state ++ [.waited executor.taskPause] := by
  have ran := Script.run_mapError engine
    (.taskFailed task.name task.action.kind.name workflow) (executor.perform task.action) state
  rw [done] at ran
  rw [performTask, Script.run_bind_of_ok ran, Script.events_bind_of_ok ran, Script.events_mapError]
  exact ⟨rfl, rfl⟩

/-- A task whose action fails does not pause. -/
theorem performTask_of_error (workflow : String) {error : RunError}
    (failed : (executor.perform task.action).run engine state = (.error error, middle)) :
    (executor.performTask workflow task).run engine state =
        (.error (.taskFailed task.name task.action.kind.name workflow error), middle) ∧
      (executor.performTask workflow task).events engine state =
        (executor.perform task.action).events engine state := by
  have ran := Script.run_mapError engine
    (.taskFailed task.name task.action.kind.name workflow) (executor.perform task.action) state
  rw [failed] at ran
  rw [performTask, Script.run_bind_of_error ran, Script.events_bind_of_error ran,
    Script.events_mapError]
  exact ⟨rfl, rfl⟩

/-- A task that is carried out a number of times goes through as many rounds, or its
action fails after fewer. -/
theorem repeated_rounds (executor : Executor) (engine : Engine State) (workflow : String)
    (task : Task) (state : State) (times : Nat) :
    let script := repeated (executor.performTask workflow task) times
    ∃ rounds last, executor.Rounds engine task.action state rounds last ∧
      ((rounds.length = times ∧ script.run engine state = (.ok (), last) ∧
          script.events engine state = executor.roundEvents rounds) ∨
        (rounds.length < times ∧ ∃ error stop,
          (executor.perform task.action).run engine last = (.error error, stop) ∧
          script.run engine state =
            (.error (.taskFailed task.name task.action.kind.name workflow error), stop) ∧
          script.events engine state =
            executor.roundEvents rounds ++
              (executor.perform task.action).events engine last)) := by
  intro script
  induction times generalizing state with
  | zero => exact ⟨[], state, .nil state, .inl ⟨rfl, rfl, rfl⟩⟩
  | succ times ih =>
      rcases tried : (executor.perform task.action).run engine state with ⟨error | _, middle⟩
      · obtain ⟨ran, seen⟩ := performTask_of_error workflow tried
        refine ⟨[], state, .nil state, .inr ⟨Nat.succ_pos _, error, middle, tried, ?_, ?_⟩⟩
        · exact Script.run_bind_of_error ran _
        · exact (Script.events_bind_of_error ran _).trans seen
      · obtain ⟨ran, seen⟩ := performTask_of_ok workflow tried
        have goesOn := Script.run_bind_of_ok ran fun _ =>
          repeated (executor.performTask workflow task) times
        have shows := Script.events_bind_of_ok ran fun _ =>
          repeated (executor.performTask workflow task) times
        obtain ⟨rounds, last, more, ends⟩ := ih (engine.wait executor.taskPause middle)
        refine ⟨_ :: rounds, last, .cons tried more, ?_⟩
        rcases ends with ⟨count, ended, passed⟩ | ⟨below, error, stop, failed, ended, passed⟩
        · refine .inl ⟨congrArg (· + 1) count, goesOn.trans ended, shows.trans ?_⟩
          rw [seen, passed, roundEvents_cons, List.append_assoc, List.singleton_append]
        · refine .inr ⟨Nat.succ_lt_succ below, error, stop, failed, goesOn.trans ended,
            shows.trans ?_⟩
          rw [seen, passed, roundEvents_cons, List.append_assoc, List.append_assoc,
            List.singleton_append, List.cons_append]

/-- Repeats unroll: a workflow is the same with every task written out as often as it is
carried out.  A task to which a workflow comes goes through one round more than it is
repeated, and then the later tasks follow, or its action fails in a round, of which nothing
more follows, and neither does a later task. -/
theorem runWorkflow_unrolls (executor : Executor) (engine : Engine State) (config : Config)
    (name : String) (state : State) :
    let ended := (executor.runWorkflow config name).run engine state
    let events := (executor.runWorkflow config name).events engine state
    ((executor.runWorkflow config.unrolled name).run engine state = ended ∧
      (executor.runWorkflow config.unrolled name).events engine state = events) ∧
    ∀ workflow earlier task later start, config.workflow name = .ok workflow →
      workflow.tasks = earlier ++ task :: later →
      (executor.runTasks name earlier).run engine state = (.ok (), start) →
      let past := (executor.runTasks name earlier).events engine state
      ∃ rounds last, executor.Rounds engine task.action start rounds last ∧
        ((rounds.length = task.repeatCount.toNat + 1 ∧
            ended = (executor.runTasks name later).run engine last ∧
            events = past ++ (executor.roundEvents rounds ++
              (executor.runTasks name later).events engine last)) ∨
          (rounds.length ≤ task.repeatCount.toNat ∧ ∃ error stop,
            (executor.perform task.action).run engine last = (.error error, stop) ∧
            ended = (.error (.taskFailed task.name task.action.kind.name name error), stop) ∧
            events = past ++ (executor.roundEvents rounds ++
              (executor.perform task.action).events engine last))) := by
  intro ended events
  refine ⟨by rw [runWorkflow_unrolled]; exact ⟨rfl, rfl⟩, ?_⟩
  intro workflow earlier task later start defined split came past
  have script : executor.runWorkflow config name = executor.runTasks name earlier >>= fun _ =>
      executor.runTask name task >>= fun _ => executor.runTasks name later := by
    rw [runWorkflow_eq_runTasks defined, split, runTasks_append]
    rfl
  have goesOn : ended = (executor.runTask name task >>= fun _ =>
      executor.runTasks name later).run engine start := by
    rw [← Script.run_bind_of_ok came fun _ => _, ← script]
  have shows : events = past ++ (executor.runTask name task >>= fun _ =>
      executor.runTasks name later).events engine start := by
    rw [← Script.events_bind_of_ok came fun _ => _, ← script]
  obtain ⟨rounds, last, made, ends⟩ :=
    executor.repeated_rounds engine name task start (task.repeatCount.toNat + 1)
  refine ⟨rounds, last, made, ?_⟩
  rcases ends with ⟨count, ran, seen⟩ | ⟨below, error, stop, failed, ran, seen⟩
  · refine .inl ⟨count, goesOn.trans (Script.run_bind_of_ok ran _), ?_⟩
    rw [shows, ← seen]
    exact congrArg _ (Script.events_bind_of_ok ran _)
  · refine .inr ⟨Nat.le_of_lt_succ below, error, stop, failed,
      goesOn.trans (Script.run_bind_of_error ran _), ?_⟩
    rw [shows, ← seen]
    exact congrArg _ (Script.events_bind_of_error ran _)

/-- An engine on which keys can be pressed three times. -/
def threePresses : Engine Nat where
  answer
    | .pressKey _, presses =>
        if presses < 3 then (.ok (), presses + 1) else (.error (.platform "worn out"), presses)
    | _, presses => (.error (.platform "not there"), presses)
  wait _ presses := presses

/-- A configuration with a workflow that presses a key four times, between two others. -/
def fourTimes : Config :=
  ({} : Config).insertWorkflow
    ⟨"leave", [⟨"go back", .press "BACK", 0⟩, ⟨"go home", .press "HOME", 3⟩,
      ⟨"stay", .press "BACK", 0⟩]⟩

/-- The third time that the key is to be pressed ends the workflow. -/
theorem runWorkflow_unrolls_threePresses :
    let home := Event.asked (.pressKey Key.homeCode)
    let pause := Event.waited (.ofSeconds 1)
    (runWorkflow {} fourTimes.unrolled "leave").events threePresses 0 =
        [.asked (.pressKey Key.backCode) (.ok ()), pause, home (.ok ()), pause, home (.ok ()),
          pause, home (.error (.platform "worn out"))] ∧
      ∃ rounds last, Rounds {} threePresses (.press "HOME") 1 rounds last ∧ rounds.length = 2 ∧
        (perform {} (.press "HOME")).run threePresses last =
          (.error (.platform "worn out"), last) := by
  intro home pause
  obtain ⟨⟨-, same⟩, unrolls⟩ := runWorkflow_unrolls {} threePresses fourTimes "leave" 0
  refine ⟨same.trans rfl, ?_⟩
  obtain ⟨rounds, last, made, ends⟩ :=
    unrolls _ [⟨"go back", .press "BACK", 0⟩] ⟨"go home", .press "HOME", 3⟩ _ 1 rfl rfl rfl
  have failing : rounds.length ≠ 4 → ∃ error stop,
      (perform {} (.press "HOME")).run threePresses last = (.error error, stop) := by
    intro fewer
    rcases ends with ⟨count, -⟩ | ⟨-, error, stop, failed, -⟩
    · exact absurd count fewer
    · exact ⟨error, stop, failed⟩
  clear ends
  cases made with
  | nil =>
      obtain ⟨_, _, failed⟩ := failing (by decide)
      cases congrArg Prod.fst failed
  | @cons _ second _ _ first more =>
      obtain rfl : 2 = second := congrArg Prod.snd first
      cases more with
      | nil =>
          obtain ⟨_, _, failed⟩ := failing (by simp)
          cases congrArg Prod.fst failed
      | @cons _ third _ _ another rest =>
          obtain rfl : 3 = third := congrArg Prod.snd another
          cases rest with
          | nil => exact ⟨_, _, .cons first (.cons another (.nil _)), rfl, rfl⟩
          | cons beyond _ => cases congrArg Prod.fst beyond

end Executor

end Screenplay
