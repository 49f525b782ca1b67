import Screenplay.Proofs.Document.Slot

/-!
# Documents with an open task

A document in which the members of one task are left open may be completed with different
members.  If it is accepted with some of them, then other ones that describe a task make it
describe the same configuration with that task in place of the old one.
-/

namespace Screenplay

namespace Config

/-- A task of a workflow. -/
def task? (config : Config) (workflow : String) (index : Nat) : Option Task :=
  (config.workflows.get? workflow).bind (·.tasks[index]?)

/-- Change a task of a workflow. -/
def changeTask (config : Config) (workflow : String) (index : Nat) (change : Task → Task) :
    Config :=
  match config.workflows.get? workflow with
  | none => config
  | some found =>
      { config with
        workflows := config.workflows.insert workflow
          { found with tasks := found.tasks.modify index change } }

theorem task?_changeTask {config : Config} {workflow : String} {index : Nat}
    {change : Task → Task} {task : Task} (isTask : config.task? workflow index = some task) :
    (config.changeTask workflow index change).task? workflow index = some (change task) := by
  rw [task?, Option.bind_eq_some_iff] at isTask
  rcases isTask with ⟨found, isFound, isTask⟩
  simp [changeTask, isFound, task?, isTask]

end Config

namespace Document

variable {members : Members}

/-- Values that are related one by one are still so after a change of one pair. -/
theorem forall₂_modify {α β : Type} {relation : α → β → Prop} {earlier later : List α}
    {item : α} {results : List β}
    (related : List.Forall₂ relation (earlier ++ item :: later) results) :
    ∃ result, results[earlier.length]? = some result ∧ relation item result ∧
      ∀ (other : α) (change : β → β), relation other (change result) →
        List.Forall₂ relation (earlier ++ other :: later)
          (results.modify earlier.length change) := by
  induction earlier generalizing results with
  | nil =>
      rcases related with _ | ⟨head, tail⟩
      exact ⟨_, rfl, head, fun _ _ changed => .cons changed tail⟩
  | cons first rest ih =>
      rcases related with _ | ⟨head, tail⟩
      rcases ih tail with ⟨result, isResult, holds, changes⟩
      exact ⟨result, isResult, holds, fun other change changed =>
        .cons head (changes other change changed)⟩

/-- Other workflows make another configuration with the same store. -/
theorem describesConfig_workflows {config : Config} {sections : Slot} {value : Json}
    {entries : Members} {map : NameMap Workflow} (serves : sections.Serves "WORKFLOWS")
    (describes : DescribesConfig config (sections.fill value))
    (described : DescribesEntries DescribesWorkflow map entries) :
    DescribesConfig { config with workflows := map } (sections.fill (.object entries)) := by
  have alike := AlikeBut.of_fill serves (by decide) value (.object entries)
  have isSection : sections.Serves Section.workflows.name := serves
  exact ⟨(alike.named (by decide)).1 describes.names,
    (alike.describesSection_iff (by decide) (by decide) rfl).1 describes.commands,
    (alike.describesSection_iff (by decide) (by decide) rfl).1 describes.packages,
    (alike.describesSection_iff (by decide) (by decide) rfl).1 describes.actions,
    (alike.describesSection_iff (by decide) (by decide) rfl).1 describes.elements,
    isSection.describesSection_iff.2 described⟩

/-- A document, the members of one task of which are left open. -/
structure TaskPlace where
  sections : Slot
  serves : sections.Serves "WORKFLOWS"
  workflows : Slot
  earlier : List Json
  later : List Json

namespace TaskPlace

variable {place : TaskPlace} {config : Config}

/-- The document with the members of its open task. -/
def fill (place : TaskPlace) (task : Members) : Json :=
  .object (place.sections.fill
    (.object (place.workflows.fill (.array (place.earlier ++ .object task :: place.later)))))

/-- The name of the workflow with the open task. -/
def workflow (place : TaskPlace) : String :=
  Text.trim place.workflows.written

/-- The open task of a configuration that the document describes. -/
def task? (place : TaskPlace) (config : Config) : Option Task :=
  config.task? place.workflow place.earlier.length

/-- The configuration with a change of the open task. -/
def change (place : TaskPlace) (config : Config) (change : Task → Task) : Config :=
  config.changeTask place.workflow place.earlier.length change

theorem task?_change {task : Task} {change : Task → Task}
    (isTask : place.task? config = some task) :
    place.task? (place.change config change) = some (change task) :=
  Config.task?_changeTask isTask

/-- Changing the members of the open task changes the task, and nothing else. -/
theorem ofJson_fill (accepted : Config.ofJson (place.fill members) = .ok config) :
    ∃ task, place.task? config = some task ∧ DescribesTask task members ∧
      ∀ (others : Members) (change : Task → Task), DescribesTask (change task) others →
        Config.ofJson (place.fill others) = .ok (place.change config change) := by
  rw [ofJson_eq_ok_iff, fill, isObject_object_iff] at accepted
  have isSection : place.sections.Serves Section.workflows.name := place.serves
  have entries := isSection.describesSection_iff.1 accepted.workflows
  rcases Slot.described_of_fill entries with ⟨workflow, isWorkflow, sameName, _, same, tasks⟩
  cases same
  rcases forall₂_modify tasks with ⟨task, isTask, isObject, changes⟩
  refine ⟨task, ?_, isObject_object_iff.1 isObject, ?_⟩
  · rw [task?, Config.task?, TaskPlace.workflow, isWorkflow]
    exact isTask
  · intro others change described
    have changed := changes (.object others) change (isObject_object_iff.2 described)
    have inserted := Slot.describesEntries_insert entries
      (show DescribesWorkflow _ { workflow with tasks := workflow.tasks.modify _ change } _ from
        ⟨sameName, _, rfl, changed⟩)
    rw [ofJson_eq_ok_iff, fill, isObject_object_iff, TaskPlace.change, Config.changeTask,
      TaskPlace.workflow, isWorkflow]
    exact describesConfig_workflows place.serves accepted inserted

end TaskPlace

end Document

end Screenplay
