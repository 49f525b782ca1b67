import Screenplay.Proofs.Document.Sections

/-!
# Sound configurations

In a configuration that was read from a document no name and no text has padding or
is blank, and every workflow stands under its own name.  Layers preserve this, so it
holds of whatever is made of documents by layering them.

Elements need no such condition, since a descriptor is sound by itself.
-/

namespace Screenplay

/-- A text without padding that is not blank. -/
def IsPlain (text : String) : Prop :=
  Text.trim text = text ∧ text ≠ ""

/-- Every entry of a map has a property. -/
def NameMap.Each {α : Type} (property : String → α → Prop) (map : NameMap α) : Prop :=
  ∀ name value, map.get? name = some value → property name value

/-- The texts of a task have no padding and are not blank. -/
structure Task.Sound (task : Task) : Prop where
  name : IsPlain task.name
  text : ∀ words ∈ task.action.text?, IsPlain words

/-- A workflow stands under its own name, and its tasks are sound. -/
structure Workflow.Sound (name : String) (workflow : Workflow) : Prop where
  name : workflow.name = name
  tasks : ∀ task ∈ workflow.tasks, task.Sound

/-- The names and texts of a configuration have no padding and are not blank, and its
workflows are sound. -/
structure Config.Sound (config : Config) : Prop where
  commands : config.store.commands.Each fun name text => IsPlain name ∧ IsPlain text
  packages : config.store.packages.Each fun name text => IsPlain name ∧ IsPlain text
  actions : config.store.actions.Each fun name text => IsPlain name ∧ IsPlain text
  elements : config.store.elements.Each fun name _ => IsPlain name
  workflows : config.workflows.Each fun name workflow => IsPlain name ∧ workflow.Sound name

/-! ## Layers -/

theorem NameMap.Each.merge {α : Type} {property : String → α → Prop} {map layer : NameMap α}
    (each : map.Each property) (eachLater : layer.Each property) :
    (map.merge layer).Each property := by
  intro name value found
  rw [NameMap.get?_merge] at found
  cases later : layer.get? name with
  | none => exact each name value (by simpa [later] using found)
  | some other =>
      have same : other = value := by simpa [later] using found
      exact same ▸ eachLater name other later

namespace Config

/-- The configuration after a strict layer; a layer that is refused changes nothing. -/
def afterOverride (config layer : Config) : Config :=
  match config.override layer with
  | .ok changed => changed
  | .error _ => config

/-- A strict layer has the effect of a lenient one or none. -/
theorem afterOverride_eq_or (config layer : Config) :
    config.afterOverride layer = config.merge layer ∨ config.afterOverride layer = config := by
  rw [afterOverride, override]
  cases config.checkOverride layer with
  | ok => exact .inl rfl
  | error => exact .inr rfl

/-- The configurations that are made of documents by layers. -/
inductive Layered : Config → Prop where
  | read {value : Json} {config : Config} (accepted : ofJson value = .ok config) : Layered config
  | merge {config layer : Config} (first : Layered config) (later : Layered layer) :
      Layered (config.merge layer)
  | override {config layer : Config} (first : Layered config) (later : Layered layer) :
      Layered (config.afterOverride layer)

theorem Sound.merge {config layer : Config} (sound : config.Sound) (later : layer.Sound) :
    (config.merge layer).Sound :=
  ⟨sound.commands.merge later.commands, sound.packages.merge later.packages,
    sound.actions.merge later.actions, sound.elements.merge later.elements,
    sound.workflows.merge later.workflows⟩

theorem Sound.afterOverride {config layer : Config} (sound : config.Sound)
    (later : layer.Sound) : (config.afterOverride layer).Sound := by
  rcases config.afterOverride_eq_or layer with merged | refused
  · rw [merged]
    exact sound.merge later
  · rw [refused]
    exact sound

end Config

namespace Document

variable {α : Type}

/-! ## Reading sound configurations -/

theorem Spells.isPlain {text : String} {value : Json} (spells : Spells text value)
    (nonblank : text ≠ "") : IsPlain text :=
  ⟨spells.trim_eq, nonblank⟩

/-- The names of a section that is read are plain, and its values are described. -/
theorem DescribesSection.each {part : Section} {form : String → α → Json → Prop}
    {map : NameMap α} {members : Members} (describes : DescribesSection part form map members) :
    map.Each fun name value => IsPlain name ∧ ∃ json, form name value json := by
  intro name value found
  rcases describes with ⟨-, rfl⟩ | ⟨_, -, entries, -, defines, described, complete⟩
  · simp at found
  · rcases complete name value found with ⟨entry, member, rfl⟩
    rcases described entry member with ⟨other, foundOther, formed⟩
    rw [found, Option.some.injEq] at foundOther
    subst foundOther
    exact ⟨⟨Text.trim_trim _, defines.named entry member⟩, entry.2, formed⟩

theorem DescribesTask.sound {task : Task} {members : Members}
    (describes : DescribesTask task members) : task.Sound := by
  rcases describes.name with ⟨_, _, spells⟩
  rcases describes.payload with ⟨_, _, payload, _, payloadRead⟩
  exact ⟨spells.isPlain describes.named, plain_of_holds payloadRead.text⟩

theorem DescribesWorkflow.sound {name : String} {workflow : Workflow} {value : Json}
    (describes : DescribesWorkflow name workflow value) : workflow.Sound name := by
  rcases describes with ⟨sameName, items, -, described⟩
  refine ⟨sameName, fun task member => ?_⟩
  rcases exists_of_forall₂_of_mem described.flip member with ⟨item, -, _, -, taskRead⟩
  exact taskRead.sound

theorem DescribesConfig.sound {config : Config} {members : Members}
    (describes : DescribesConfig config members) : config.Sound := by
  have texts : ∀ {part : Section} {map : NameMap String},
      DescribesSection part DescribesText map members →
        map.Each fun name text => IsPlain name ∧ IsPlain text := by
    intro part map section_ name text found
    rcases section_.each name text found with ⟨plain, _, spells, nonblank⟩
    exact ⟨plain, spells.isPlain nonblank⟩
  refine ⟨texts describes.commands, texts describes.packages, texts describes.actions, ?_, ?_⟩
  · intro name descriptor found
    exact (describes.elements.each name descriptor found).1
  · intro name workflow found
    rcases describes.workflows.each name workflow found with ⟨plain, _, workflowRead⟩
    exact ⟨plain, workflowRead.sound⟩

end Document

theorem Config.Layered.sound {config : Config} (layered : Layered config) : config.Sound := by
  induction layered with
  | read accepted =>
      rcases Document.ofJson_eq_ok_iff.1 accepted with ⟨_, -, describes⟩
      exact describes.sound
  | merge _ _ sound soundLater => exact sound.merge soundLater
  | override _ _ sound soundLater => exact sound.afterOverride soundLater

end Screenplay
