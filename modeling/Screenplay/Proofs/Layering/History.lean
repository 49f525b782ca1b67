import Screenplay.Proofs.Document.Sound
import Screenplay.Proofs.Layering.Definitions

/-!
# Histories of configurations

Starting from nothing, a configuration is changed by defining single names and by laying
others over it or over its store.  Each change writes definitions, and the log of a
history says what was written when.  What can be read from the configuration in the end
is what the log has last, in whichever way it is read.
-/

namespace Screenplay

/-- The store after a strict layer; a layer that is refused changes nothing. -/
def Store.afterOverride (store layer : Store) : Store :=
  match store.override layer with
  | .ok changed => changed
  | .error _ => store

/-- A change of a configuration. -/
inductive Change where
  | insertCommand (name command : String)
  | insertPackage (name package : String)
  | insertAction (name action : String)
  | insertElement (name : String) (element : Descriptor)
  | insertWorkflow (workflow : Workflow)
  | mergeStore (layer : Store)
  | overrideStore (layer : Store)
  | merge (layer : Config)
  | override (layer : Config)

namespace Change

/-- The configuration that a change leads to. -/
def apply (config : Config) : Change → Config
  | insertCommand name command =>
      { config with store := config.store.insertCommand name command }
  | insertPackage name package =>
      { config with store := config.store.insertPackage name package }
  | insertAction name action =>
      { config with store := config.store.insertAction name action }
  | insertElement name element =>
      { config with store := config.store.insertElement name element }
  | insertWorkflow workflow => config.insertWorkflow workflow
  | mergeStore layer => { config with store := config.store.merge layer }
  | overrideStore layer => { config with store := config.store.afterOverride layer }
  | merge layer => config.merge layer
  | override layer => config.afterOverride layer

/-- The configuration that a change lays over another one. -/
def layer? : Change → Option Config
  | merge layer | override layer => some layer
  | _ => none

/-- What a strict layer writes: nothing if it is refused. -/
def writtenIfAccepted {Held : Type} (result : Except ConfigError Held)
    (layer : Definitions) : Definitions :=
  match result with
  | .ok _ => layer
  | .error _ => fun _ => ∅

/-- What a change of a configuration writes. -/
def written (config : Config) (change : Change) : Definitions := fun part =>
  match change, part with
  | insertCommand name command, .commands => NameMap.insert ∅ name command
  | insertPackage name package, .packages => NameMap.insert ∅ name package
  | insertAction name action, .actions => NameMap.insert ∅ name action
  | insertElement name element, .elements => NameMap.insert ∅ name element
  | insertWorkflow workflow, .workflows => NameMap.insert ∅ workflow.name workflow
  | mergeStore layer, part => layer.definitions part
  | overrideStore layer, part =>
      writtenIfAccepted (config.store.override layer) layer.definitions part
  | merge layer, part => layer.definitions part
  | override layer, part => writtenIfAccepted (config.override layer) layer.definitions part
  | _, _ => ∅

end Change

namespace Config

/-- The configuration after some changes. -/
def after (config : Config) (history : List Change) : Config :=
  history.foldl Change.apply config

/-- What some changes of a configuration write, one after the other. -/
def log (config : Config) : List Change → List Definitions
  | [] => []
  | change :: history => change.written config :: log (change.apply config) history

/-- The configurations that arise from nothing, where every layer arises in this way. -/
inductive Built : Config → Prop where
  | nothing : Built {}
  | change {config : Config} {change : Change} (first : Built config)
      (layers : ∀ layer, change.layer? = some layer → Built layer) :
      Built (change.apply config)

end Config

/-- The last of some writes that gives a name a value gives it this one. -/
def LastGiven (log : List Definitions) (part : Section) (name : String)
    (value : part.Value) : Prop :=
  ∃ earlier written later, log = earlier ++ written :: later ∧
    (written part).get? name = some value ∧ ∀ other ∈ later, (other part).get? name = none

/-- None of some writes gives a name a value. -/
def NeverGiven (log : List Definitions) (part : Section) (name : String) : Prop :=
  ∀ written ∈ log, (written part).get? name = none

/-- A value as the store gives it back.  Workflows are not part of the store. -/
def Section.stored? : (part : Section) → part.Value → Option StoreValue
  | .commands, text | .packages, text | .actions, text => some (.text text)
  | .elements, element => some (.element element)
  | .workflows, _ => none

/-- All ways to read a configuration agree with what was written last. -/
structure Config.ReadsLast (config : Config) (log : List Definitions) : Prop where
  get_ok : ∀ part name value, config.store.get part name = .ok value ↔
    ∃ given, LastGiven log part name given ∧ part.stored? given = some value
  get_error : ∀ part ∈ Section.values, ∀ name error,
    config.store.get part name = .error error ↔
      error = .missingKey part name ∧ NeverGiven log part name
  workflow_ok : ∀ name workflow, config.workflow name = .ok workflow ↔
    LastGiven log .workflows name workflow
  workflow_error : ∀ name error, config.workflow name = .error error ↔
    error = .missingKey .workflows name ∧ NeverGiven log .workflows name
  command : ∀ name, config.store.get .commands name = .text <$> config.store.command name
  package : ∀ name, config.store.get .packages name = .text <$> config.store.package name
  action : ∀ name, config.store.get .actions name = .text <$> config.store.action name
  element : ∀ name, config.store.get .elements name = .element <$> config.store.element name
  selector : ∀ name, config.store.selector name = Descriptor.query <$> config.store.element name
  names_increasing : ∀ part ∈ Section.values, (config.store.names part).Pairwise (· < ·)
  mem_names : ∀ part ∈ Section.values, ∀ name, name ∈ config.store.names part ↔
    ∃ value, config.store.get part name = .ok value
  size : ∀ part ∈ Section.values, config.store.size part = (config.store.names part).length
  isEmpty : config.isEmpty = true ↔ ∀ part name, NeverGiven log part name

/-! ## Writes -/

section Writes

variable {written : Definitions} {log : List Definitions} {part : Section} {name : String}
  {value : part.Value}

@[simp] theorem not_lastGiven_nil : ¬ LastGiven [] part name value := by
  rintro ⟨earlier, written, later, split, -⟩
  simp at split

@[simp] theorem neverGiven_nil : NeverGiven [] part name := by
  simp [NeverGiven]

@[simp] theorem neverGiven_cons :
    NeverGiven (written :: log) part name ↔
      (written part).get? name = none ∧ NeverGiven log part name :=
  List.forall_mem_cons

/-- The last write is among the later ones, or there is none among them. -/
theorem lastGiven_cons :
    LastGiven (written :: log) part name value ↔
      LastGiven log part name value ∨
        NeverGiven log part name ∧ (written part).get? name = some value := by
  constructor
  · rintro ⟨earlier, last, later, split, gives, silent⟩
    cases earlier with
    | nil =>
        obtain ⟨rfl, rfl⟩ := List.cons.inj split
        exact .inr ⟨silent, gives⟩
    | cons first earlier =>
        obtain ⟨rfl, rfl⟩ := List.cons.inj split
        exact .inl ⟨earlier, last, later, rfl, gives, silent⟩
  · rintro (⟨earlier, last, later, rfl, gives, silent⟩ | ⟨silent, gives⟩)
    · exact ⟨written :: earlier, last, later, rfl, gives, silent⟩
    · exact ⟨[], written, log, rfl, gives, silent⟩

end Writes

/-! ## Changes -/

theorem Config.definitions_afterOverride (config layer : Config) (part : Section) :
    (config.afterOverride layer).definitions part = (config.definitions part).merge
      (Change.writtenIfAccepted (config.override layer) layer.definitions part) := by
  rw [afterOverride, override]
  cases config.checkOverride layer with
  | ok => exact config.definitions_merge layer part
  | error => rfl

theorem Store.definitions_afterOverride (store layer : Store) (part : Section) :
    (store.afterOverride layer).definitions part = (store.definitions part).merge
      (Change.writtenIfAccepted (store.override layer) layer.definitions part) := by
  rw [afterOverride, override]
  cases store.checkOverride layer with
  | ok => exact store.definitions_merge layer part
  | error => rfl

/-- The definitions of a configuration with another store. -/
theorem Config.definitions_withStore {config : Config} {store : Store} {layer : Definitions}
    (noWorkflows : layer .workflows = ∅)
    (merged : ∀ part, store.definitions part = (config.store.definitions part).merge (layer part))
    (part : Section) :
    ({ config with store := store } : Config).definitions part =
      (config.definitions part).merge (layer part) := by
  cases part with
  | commands => exact merged .commands
  | packages => exact merged .packages
  | actions => exact merged .actions
  | elements => exact merged .elements
  | workflows =>
      rw [noWorkflows]
      rfl

/-- A change merges what it writes into the definitions there are. -/
theorem Change.definitions_apply (config : Config) (change : Change) (part : Section) :
    (change.apply config).definitions part =
      (config.definitions part).merge (change.written config part) := by
  cases change with
  | insertCommand | insertPackage | insertAction | insertElement | insertWorkflow =>
      cases part <;> rfl
  | merge layer => exact config.definitions_merge layer part
  | override layer => exact config.definitions_afterOverride layer part
  | mergeStore layer =>
      exact Config.definitions_withStore rfl (config.store.definitions_merge layer) part
  | overrideStore layer =>
      refine Config.definitions_withStore ?_ (config.store.definitions_afterOverride layer) part
      cases config.store.override layer <;> rfl

namespace Config

/-- What is found after some changes was given last, or was there and not written. -/
theorem get?_after_eq_some_iff (config : Config) (history : List Change) {part : Section}
    {name : String} {value : part.Value} :
    ((config.after history).definitions part).get? name = some value ↔
      LastGiven (config.log history) part name value ∨
        NeverGiven (config.log history) part name ∧
          (config.definitions part).get? name = some value := by
  induction history generalizing config with
  | nil => simp [after, log]
  | cons change history ih =>
      rw [after, List.foldl_cons, ← after, ih, log, lastGiven_cons, neverGiven_cons,
        change.definitions_apply, NameMap.get?_merge, Option.orElse_eq_orElse, Option.orElse_eq_or,
        Option.or_eq_some_iff]
      tauto

/-- What is missing after some changes was missing, and was never given. -/
theorem get?_after_eq_none_iff (config : Config) (history : List Change) {part : Section}
    {name : String} :
    ((config.after history).definitions part).get? name = none ↔
      NeverGiven (config.log history) part name ∧ (config.definitions part).get? name = none := by
  induction history generalizing config with
  | nil => simp [after, log]
  | cons change history ih =>
      rw [after, List.foldl_cons, ← after, ih, log, neverGiven_cons, change.definitions_apply,
        NameMap.get?_merge, Option.orElse_eq_orElse, Option.orElse_eq_or, Option.or_eq_none_iff]
      tauto

end Config

/-! ## Reading -/

namespace NameMap

variable {α β : Type} {map : NameMap α} {part : Section} {name : String}

theorem get_eq_ok_iff {value : α} :
    map.get part name = .ok value ↔ map.get? name = some value := by
  rw [get]
  cases map.get? name <;> simp

theorem get_eq_error_iff {error : ConfigError} :
    map.get part name = .error error ↔
      error = .missingKey part name ∧ map.get? name = none := by
  rw [get]
  cases map.get? name <;> simp [eq_comm]

theorem map_get (change : α → β) (map : NameMap α) (part : Section) (name : String) :
    change <$> map.get part name = (map.map change).get part name := by
  rw [get, get, get?_map]
  cases map.get? name <;> rfl

end NameMap

namespace Config

/-- The names of a store are those of its definitions. -/
theorem store_names_eq (config : Config) {part : Section} (ofStore : part ∈ Section.values) :
    config.store.names part = (config.definitions part).names := by
  cases part with
  | commands | packages | actions | elements => rfl
  | workflows => simp [Section.values] at ofStore

theorem store_size_eq (config : Config) {part : Section} (ofStore : part ∈ Section.values) :
    config.store.size part = (config.definitions part).size := by
  cases part with
  | commands | packages | actions | elements => rfl
  | workflows => simp [Section.values] at ofStore

theorem store_get_eq_ok_iff (config : Config) {part : Section} {name : String}
    {value : StoreValue} :
    config.store.get part name = .ok value ↔
      ∃ given, (config.definitions part).get? name = some given ∧
        part.stored? given = some value := by
  cases part with
  | commands | packages | actions | elements =>
      simp [Store.get, NameMap.map_get, NameMap.get_eq_ok_iff, definitions, Section.stored?]
  | workflows => simp [Store.get, Section.stored?]

theorem store_get_eq_error_iff (config : Config) {part : Section}
    (ofStore : part ∈ Section.values) {name : String} {error : ConfigError} :
    config.store.get part name = .error error ↔
      error = .missingKey part name ∧ (config.definitions part).get? name = none := by
  cases part with
  | commands | packages | actions | elements =>
      simp [Store.get, NameMap.map_get, NameMap.get_eq_error_iff, definitions]
  | workflows => simp [Section.values] at ofStore

theorem isEmpty_iff (config : Config) :
    config.isEmpty = true ↔ ∀ part name, (config.definitions part).get? name = none := by
  rw [isEmpty, Bool.and_eq_true, Store.isEmpty, List.all_eq_true, NameMap.isEmpty_iff]
  constructor
  · rintro ⟨storeEmpty, noWorkflows⟩ part
    by_cases ofStore : part ∈ Section.values
    · have none := storeEmpty part ofStore
      rw [beq_iff_eq, config.store_size_eq ofStore, NameMap.size_eq_zero_iff] at none
      exact NameMap.isEmpty_iff.1 none
    · cases part with
      | commands | packages | actions | elements => simp [Section.values] at ofStore
      | workflows => exact noWorkflows
  · intro misses
    refine ⟨fun part ofStore => ?_, misses .workflows⟩
    rw [beq_iff_eq, config.store_size_eq ofStore, NameMap.size_eq_zero_iff]
    exact NameMap.isEmpty_iff.2 (misses part)

/-- If the definitions are what was written last, then so is everything that is read. -/
theorem readsLast_of_get? {config : Config} {log : List Definitions}
    (given : ∀ part name value,
      (config.definitions part).get? name = some value ↔ LastGiven log part name value)
    (missing : ∀ part name,
      (config.definitions part).get? name = none ↔ NeverGiven log part name) :
    config.ReadsLast log := by
  constructor
  case get_ok =>
    intro part name value
    rw [store_get_eq_ok_iff]
    simp only [given]
  case get_error =>
    intro part ofStore name error
    rw [config.store_get_eq_error_iff ofStore, missing]
  case workflow_ok =>
    intro name workflow
    rw [Config.workflow, NameMap.get_eq_ok_iff]
    exact given .workflows name workflow
  case workflow_error =>
    intro name error
    rw [Config.workflow, NameMap.get_eq_error_iff]
    exact and_congr_right' (missing .workflows name)
  case command | package | action | element | selector =>
    intro name
    rfl
  case names_increasing =>
    intro part ofStore
    rw [config.store_names_eq ofStore]
    exact NameMap.names_increasing _
  case mem_names =>
    intro part ofStore name
    rw [config.store_names_eq ofStore, NameMap.mem_names_iff]
    cases ended : config.store.get part name with
    | ok value =>
        obtain ⟨given, found, -⟩ := config.store_get_eq_ok_iff.1 ended
        exact iff_of_true ⟨given, found⟩ ⟨value, rfl⟩
    | error error =>
        obtain ⟨-, misses⟩ := (config.store_get_eq_error_iff ofStore).1 ended
        simp [misses]
  case size =>
    intro part ofStore
    rw [config.store_size_eq ofStore, config.store_names_eq ofStore, NameMap.size_eq_length_names]
  case isEmpty =>
    rw [config.isEmpty_iff]
    simp only [missing]

/-! ## Names of workflows -/

/-- Every workflow is stored under its own name. -/
def OwnNames (config : Config) : Prop :=
  config.workflows.Each fun name workflow => workflow.name = name

theorem OwnNames.insertWorkflow {config : Config} (own : config.OwnNames)
    (workflow : Workflow) : (config.insertWorkflow workflow).OwnNames := by
  intro name found held
  change (config.workflows.insert workflow.name workflow).get? name = some found at held
  rw [NameMap.get?_insert] at held
  split at held
  next same =>
    cases held
    exact same.symm
  next => exact own name found held

theorem OwnNames.apply {config : Config} {change : Change} (own : config.OwnNames)
    (layers : ∀ layer, change.layer? = some layer → layer.OwnNames) :
    (change.apply config).OwnNames := by
  cases change with
  | insertCommand | insertPackage | insertAction | insertElement | mergeStore | overrideStore =>
      exact own
  | insertWorkflow workflow => exact own.insertWorkflow workflow
  | merge layer => exact NameMap.Each.merge own (layers layer rfl)
  | override layer =>
      rcases config.afterOverride_eq_or layer with merged | refused
      · rw [Change.apply, merged]
        exact NameMap.Each.merge own (layers layer rfl)
      · rw [Change.apply, refused]
        exact own

theorem Built.ownNames {config : Config} (built : config.Built) : config.OwnNames := by
  induction built with
  | nothing =>
      rintro name workflow ⟨⟩
  | change first layers own ownLayers => exact own.apply ownLayers

theorem Built.after {config : Config} (built : config.Built) (history : List Change)
    (layers : ∀ change ∈ history, ∀ layer, change.layer? = some layer → layer.Built) :
    (config.after history).Built := by
  induction history generalizing config with
  | nil => exact built
  | cons change history ih =>
      rw [List.forall_mem_cons] at layers
      exact ih (built.change layers.1) layers.2

/-- Whatever was done to a configuration that was empty at first, what is read from it is
what was written last.  If all layers arose in this way too, then every workflow is stored
under its own name. -/
theorem after_readsLast (history : List Change) :
    (after {} history).ReadsLast (log {} history) ∧
      ((∀ change ∈ history, ∀ layer, change.layer? = some layer → layer.Built) →
        (after {} history).OwnNames) := by
  have nothing : ∀ part name, ((definitions {}) part).get? name = none := by
    rintro (_ | _ | _ | _ | _) name <;> rfl
  refine ⟨readsLast_of_get? (fun part name value => ?_) fun part name => ?_, ?_⟩
  · simp [get?_after_eq_some_iff, nothing]
  · simp [get?_after_eq_none_iff, nothing]
  · exact fun layers => (Built.nothing.after history layers).ownNames

/-- A history in which a strict layer is refused, and a later one is not. -/
def refusedOnce : List Change :=
  let leave : Workflow := ⟨"leave", []⟩
  [.insertCommand "open" "am start", .insertWorkflow leave,
    .override (after {} [.insertCommand "shut" "am kill", .insertWorkflow leave]),
    .override (after {} [.insertCommand "open" "am start -W"])]

/-- Nothing was written by the layer that was refused. -/
theorem after_readsLast_refusedOnce :
    LastGiven (log {} refusedOnce) .commands "open" "am start -W" ∧
      NeverGiven (log {} refusedOnce) .commands "shut" ∧
      (∀ change ∈ refusedOnce, ∀ layer, change.layer? = some layer → layer.Built) ∧
      (after {} refusedOnce).OwnNames := by
  obtain ⟨reads, own⟩ := after_readsLast refusedOnce
  have opened : LastGiven (log {} refusedOnce) .commands "open" "am start -W" := by
    obtain ⟨given, last, stored⟩ := (reads.get_ok .commands "open" (.text "am start -W")).1 rfl
    cases stored
    exact last
  have missing := (reads.get_error .commands (by decide) "shut" _).1 rfl
  have layers : ∀ change ∈ refusedOnce, ∀ layer, change.layer? = some layer → layer.Built := by
    intro change member layer laid
    simp only [refusedOnce, List.mem_cons, List.not_mem_nil, or_false] at member
    rcases member with rfl | rfl | rfl | rfl <;> cases laid <;>
      exact Built.nothing.after _ (by simp [Change.layer?])
  exact ⟨opened, missing.2, layers, own layers⟩

end Config

end Screenplay
