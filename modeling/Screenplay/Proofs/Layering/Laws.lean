import Screenplay.Proofs.Layering.Definitions

/-!
# The laws of layers

Lenient layers form a monoid in which everything is idempotent: they may be combined before
they are laid over something, nothing is gained by a layer that is there already, and the
order of two layers does not matter as long as they agree on the names that they share.

A strict layer that is accepted has the effect of a lenient one.  Since it adds no name, two
strict layers in a row are accepted exactly when their combination is.

Configurations and stores obey the same laws, for the same reason: both are determined by
their definitions, which are merged section by section.
-/

namespace Screenplay

/-! ## Maps -/

namespace NameMap

variable {α : Type}

/-- Two maps give the names that they share the same values. -/
def Agrees (left right : NameMap α) : Prop :=
  ∀ name value other, left.get? name = some value → right.get? name = some other → value = other

theorem merge_assoc (first second third : NameMap α) :
    (first.merge second).merge third = first.merge (second.merge third) := by
  apply ext_get?
  intro name
  simp only [get?_merge]
  cases third.get? name <;> rfl

@[simp] theorem empty_merge (map : NameMap α) : (∅ : NameMap α).merge map = map := by
  apply ext_get?
  intro name
  rw [get?_merge, get?_empty]
  cases map.get? name <;> rfl

@[simp] theorem merge_empty (map : NameMap α) : map.merge ∅ = map := rfl

@[simp] theorem merge_self (map : NameMap α) : map.merge map = map := by
  apply ext_get?
  intro name
  rw [get?_merge]
  cases map.get? name <;> rfl

/-- The order of two layers matters for the names that they share, and for no others. -/
theorem merge_merge_comm_iff {base left right : NameMap α} :
    (base.merge left).merge right = (base.merge right).merge left ↔ left.Agrees right := by
  constructor
  · intro same name value other atLeft atRight
    have found := congrArg (·.get? name) same
    simp only [get?_merge, atLeft, atRight] at found
    exact (Option.some.inj found).symm
  · intro agrees
    apply ext_get?
    intro name
    simp only [get?_merge]
    cases atLeft : left.get? name with
    | none => cases right.get? name <;> rfl
    | some value =>
        cases atRight : right.get? name with
        | none => rfl
        | some other => rw [agrees name value other atLeft atRight]

theorem eq_empty_iff {map : NameMap α} : map = ∅ ↔ map.size = 0 := by
  rw [size, List.length_eq_zero_iff]
  constructor
  · intro same
    rw [same]
    rfl
  · intro without
    exact ext_entries without

end NameMap

/-! ## Layers -/

/-- What may be held and layered: what it defines, when it is empty, and the two ways of
laying one over another. -/
structure Layering (Held : Type) where
  definitions : Held → Definitions
  nothing : Held
  isEmpty : Held → Bool
  merge : Held → Held → Held
  override : Held → Held → Except ConfigError Held

/-- The layers of configurations. -/
def Config.layering : Layering Config where
  definitions := Config.definitions
  nothing := {}
  isEmpty := Config.isEmpty
  merge := Config.merge
  override := Config.override

/-- The layers of stores. -/
def Store.layering : Layering Store where
  definitions := Store.definitions
  nothing := {}
  isEmpty := Store.isEmpty
  merge := Store.merge
  override := Store.override

namespace Layering

variable {Held : Type} {layering : Layering Held}

/-- Two layers give the names that they share the same values, in every section. -/
def Agree (layering : Layering Held) (left right : Held) : Prop :=
  ∀ part, (layering.definitions left part).Agrees (layering.definitions right part)

/-- All names of a layer are known. -/
def Known (layering : Layering Held) (held layer : Held) : Prop :=
  ∀ part name, Defines (layering.definitions layer) part name →
    Defines (layering.definitions held) part name

/-- Layers are determined by their definitions, which are merged section by section. -/
structure BySection (layering : Layering Held) : Prop where
  ext : ∀ {left right}, (∀ part, layering.definitions left part = layering.definitions right part) →
    left = right
  nothing : ∀ part, layering.definitions layering.nothing part = ∅
  isEmpty_iff : ∀ held, layering.isEmpty held = true ↔ held = layering.nothing
  merge : ∀ held layer part, layering.definitions (layering.merge held layer) part =
    (layering.definitions held part).merge (layering.definitions layer part)
  override_eq_ok_iff : ∀ held layer result, layering.override held layer = .ok result ↔
    layering.Known held layer ∧ result = layering.merge held layer

/-- The laws of layers. -/
structure Laws (layering : Layering Held) : Prop where
  merge_assoc : ∀ first second third,
    layering.merge (layering.merge first second) third =
      layering.merge first (layering.merge second third)
  isEmpty_iff : ∀ held, layering.isEmpty held = true ↔ held = layering.nothing
  nothing_merge : ∀ held, layering.merge layering.nothing held = held
  merge_nothing : ∀ held, layering.merge held layering.nothing = held
  merge_self : ∀ held, layering.merge held held = held
  merge_comm_iff : ∀ left right,
    layering.merge left right = layering.merge right left ↔ layering.Agree left right
  merge_merge_comm_iff : ∀ base left right,
    layering.merge (layering.merge base left) right =
        layering.merge (layering.merge base right) left ↔
      layering.Agree left right
  override_eq_ok_iff : ∀ held layer result, layering.override held layer = .ok result ↔
    layering.Known held layer ∧ result = layering.merge held layer
  override_override_eq_ok_iff : ∀ held first second result,
    (∃ between, layering.override held first = .ok between ∧
        layering.override between second = .ok result) ↔
      layering.override held (layering.merge first second) = .ok result

namespace BySection

variable (bySection : layering.BySection) {held layer first second : Held}

include bySection

theorem merge_assoc (first second third : Held) :
    layering.merge (layering.merge first second) third =
      layering.merge first (layering.merge second third) := by
  apply bySection.ext
  intro part
  simp only [bySection.merge, NameMap.merge_assoc]

theorem nothing_merge (held : Held) : layering.merge layering.nothing held = held := by
  apply bySection.ext
  intro part
  rw [bySection.merge, bySection.nothing, NameMap.empty_merge]

theorem merge_nothing (held : Held) : layering.merge held layering.nothing = held := by
  apply bySection.ext
  intro part
  rw [bySection.merge, bySection.nothing, NameMap.merge_empty]

theorem merge_self (held : Held) : layering.merge held held = held := by
  apply bySection.ext
  intro part
  rw [bySection.merge, NameMap.merge_self]

theorem merge_merge_comm_iff (base left right : Held) :
    layering.merge (layering.merge base left) right =
        layering.merge (layering.merge base right) left ↔
      layering.Agree left right := by
  constructor
  · intro same part
    apply NameMap.merge_merge_comm_iff.1
    rw [← bySection.merge, ← bySection.merge, ← bySection.merge, ← bySection.merge, same]
  · intro agree
    apply bySection.ext
    intro part
    simp only [bySection.merge]
    exact NameMap.merge_merge_comm_iff.2 (agree part)

theorem merge_comm_iff (left right : Held) :
    layering.merge left right = layering.merge right left ↔ layering.Agree left right := by
  rw [← bySection.merge_merge_comm_iff layering.nothing left right, bySection.nothing_merge,
    bySection.nothing_merge]

/-- A combination of layers defines the names of both. -/
theorem known_merge_iff :
    layering.Known held (layering.merge first second) ↔
      layering.Known held first ∧ layering.Known held second := by
  simp only [Known, Defines, bySection.merge, NameMap.mem_names_merge, or_imp, forall_and]

/-- A layer whose names are known adds none. -/
theorem known_merge_left_iff (known : layering.Known held first) :
    layering.Known (layering.merge held first) second ↔ layering.Known held second := by
  have names : ∀ part name, Defines (layering.definitions (layering.merge held first)) part name ↔
      Defines (layering.definitions held) part name := by
    intro part name
    rw [Defines, bySection.merge, NameMap.mem_names_merge]
    exact or_iff_left_of_imp (known part name)
  simp only [Known, names]

theorem override_override_eq_ok_iff (held first second result : Held) :
    (∃ between, layering.override held first = .ok between ∧
        layering.override between second = .ok result) ↔
      layering.override held (layering.merge first second) = .ok result := by
  simp only [bySection.override_eq_ok_iff, bySection.known_merge_iff]
  constructor
  · intro holds
    rcases holds with ⟨_, ⟨knownFirst, rfl⟩, knownSecond, rfl⟩
    rw [bySection.known_merge_left_iff knownFirst] at knownSecond
    exact ⟨⟨knownFirst, knownSecond⟩, bySection.merge_assoc held first second⟩
  · intro holds
    rcases holds with ⟨⟨knownFirst, knownSecond⟩, rfl⟩
    refine ⟨_, ⟨knownFirst, rfl⟩, ?_, (bySection.merge_assoc held first second).symm⟩
    rwa [bySection.known_merge_left_iff knownFirst]

/-- The laws follow from those of maps, section by section. -/
theorem laws : layering.Laws where
  merge_assoc := bySection.merge_assoc
  isEmpty_iff := bySection.isEmpty_iff
  nothing_merge := bySection.nothing_merge
  merge_nothing := bySection.merge_nothing
  merge_self := bySection.merge_self
  merge_comm_iff := bySection.merge_comm_iff
  merge_merge_comm_iff := bySection.merge_merge_comm_iff
  override_eq_ok_iff := bySection.override_eq_ok_iff
  override_override_eq_ok_iff := bySection.override_override_eq_ok_iff

end BySection

end Layering

/-! ## Configurations and stores -/

/-- A check is passed when all names are known, as long as it covers the sections in which
the layer defines some. -/
theorem checkSections_eq_ok_iff {current layer : Definitions} {parts : List Section}
    (covers : ∀ part name, Defines layer part name → part ∈ parts) :
    checkSections current layer parts = .ok () ↔
      ∀ part name, Defines layer part name → Defines current part name := by
  rcases checkSections_cases current layer parts with
    ⟨accepted, known⟩ | ⟨part, names, refused, unknown⟩
  · rw [accepted]
    exact iff_of_true rfl fun part name defines =>
      known part (covers part name defines) name defines
  · rw [refused]
    refine iff_of_false (by simp) fun known => ?_
    exact unknown.not_forall_known fun part _ name => known part name

/-- What follows a check is computed exactly when the check is passed. -/
theorem checked_eq_ok_iff {ε α : Type} {check : Except ε Unit} {value result : α} :
    (do
      check
      return value) = .ok result ↔ check = .ok () ∧ result = value := by
  cases check with
  | ok => simp [bind, Except.bind, pure, Except.pure, eq_comm]
  | error => simp [bind, Except.bind]

theorem Store.ext_definitions {left right : Store}
    (same : ∀ part, left.definitions part = right.definitions part) : left = right := by
  obtain ⟨commands, packages, actions, elements⟩ := left
  obtain ⟨commands', packages', actions', elements'⟩ := right
  obtain rfl : commands = commands' := same .commands
  obtain rfl : packages = packages' := same .packages
  obtain rfl : actions = actions' := same .actions
  obtain rfl : elements = elements' := same .elements
  rfl

theorem Store.isEmpty_iff_eq {store : Store} : store.isEmpty = true ↔ store = {} := by
  obtain ⟨commands, packages, actions, elements⟩ := store
  simp [isEmpty, Section.values, size, NameMap.eq_empty_iff]

theorem Config.isEmpty_iff_eq {config : Config} : config.isEmpty = true ↔ config = {} := by
  obtain ⟨store, workflows⟩ := config
  rw [isEmpty, Bool.and_eq_true, Store.isEmpty_iff_eq, ← NameMap.size_eq_zero_iff,
    ← NameMap.eq_empty_iff, Config.mk.injEq]

theorem Store.override_eq_ok_iff {store layer result : Store} :
    store.override layer = .ok result ↔
      layering.Known store layer ∧ result = store.merge layer := by
  have covers : ∀ part name, Defines layer.definitions part name → part ∈ Section.values := by
    intro part name defines
    cases part with
    | workflows => cases defines
    | commands | packages | actions | elements => decide
  rw [Layering.Known, layering, ← checkSections_eq_ok_iff covers, ← checkOverride_eq]
  exact checked_eq_ok_iff

theorem Config.override_eq_ok_iff {config layer result : Config} :
    config.override layer = .ok result ↔
      layering.Known config layer ∧ result = config.merge layer := by
  rw [Layering.Known, layering,
    ← checkSections_eq_ok_iff fun part _ _ => Section.mem_all part, ← checkOverride_eq]
  exact checked_eq_ok_iff

theorem Store.layering_bySection : layering.BySection where
  ext := ext_definitions
  nothing := by
    intro part
    cases part <;> rfl
  isEmpty_iff := fun _ => isEmpty_iff_eq
  merge := definitions_merge
  override_eq_ok_iff := fun _ _ _ => override_eq_ok_iff

theorem Config.layering_bySection : layering.BySection where
  ext := ext_definitions
  nothing := by
    intro part
    cases part <;> rfl
  isEmpty_iff := fun _ => isEmpty_iff_eq
  merge := definitions_merge
  override_eq_ok_iff := fun _ _ _ => override_eq_ok_iff

/-- Configurations obey the laws of layers, and so do stores. -/
theorem layers_are_lawful : Config.layering.Laws ∧ Store.layering.Laws :=
  ⟨Config.layering_bySection.laws, Store.layering_bySection.laws⟩

end Screenplay
