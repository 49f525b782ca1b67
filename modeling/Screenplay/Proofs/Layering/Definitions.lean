import Screenplay.Config.Basic
import Screenplay.Proofs.NameMap

/-!
# Definitions

What a configuration or a store defines, seen section by section.  The five maps of a
configuration hold values of three types, so the type of a value depends on its section.

A configuration is determined by its definitions.  A lenient layer merges them in each
section, and a strict layer is checked in one section after the other, up to the first
one in which it defines a name that is not known.
-/

namespace Screenplay

/-- What a name of a section stands for. -/
@[reducible] def Section.Value : Section → Type
  | .commands | .packages | .actions => String
  | .elements => Descriptor
  | .workflows => Workflow

/-- For each section the names that are defined there, with their values. -/
abbrev Definitions := (part : Section) → NameMap part.Value

/-- What a store defines.  It has no workflows. -/
def Store.definitions (store : Store) : Definitions
  | .commands => store.commands
  | .packages => store.packages
  | .actions => store.actions
  | .elements => store.elements
  | .workflows => ∅

/-- What a configuration defines. -/
def Config.definitions (config : Config) : Definitions
  | .commands => config.store.commands
  | .packages => config.store.packages
  | .actions => config.store.actions
  | .elements => config.store.elements
  | .workflows => config.workflows

@[simp] theorem Section.mem_all (part : Section) : part ∈ all := by
  cases part <;> decide

@[simp] theorem Store.definitions_merge (store layer : Store) (part : Section) :
    (store.merge layer).definitions part =
      (store.definitions part).merge (layer.definitions part) := by
  cases part <;> rfl

@[simp] theorem Config.definitions_merge (config layer : Config) (part : Section) :
    (config.merge layer).definitions part =
      (config.definitions part).merge (layer.definitions part) := by
  cases part <;> rfl

theorem Config.ext_definitions {left right : Config}
    (same : ∀ part, left.definitions part = right.definitions part) : left = right := by
  obtain ⟨⟨commands, packages, actions, elements⟩, workflows⟩ := left
  obtain ⟨⟨commands', packages', actions', elements'⟩, workflows'⟩ := right
  obtain rfl : commands = commands' := same .commands
  obtain rfl : packages = packages' := same .packages
  obtain rfl : actions = actions' := same .actions
  obtain rfl : elements = elements' := same .elements
  obtain rfl : workflows = workflows' := same .workflows
  rfl

/-- A name is defined in a section. -/
def Defines (definitions : Definitions) (part : Section) (name : String) : Prop :=
  name ∈ (definitions part).names

/-! ## Checking a strict layer -/

/-- The first of some sections in which a layer defines names that are not known, with
all of these names in order. -/
structure FirstUnknown (parts : List Section) (known : Section → String → Prop)
    (layer : Definitions) (part : Section) (names : List String) : Prop where
  first : ∃ earlier later, parts = earlier ++ part :: later ∧
    ∀ other ∈ earlier, ∀ name, Defines layer other name → known other name
  not_empty : names ≠ []
  increasing : names.Pairwise (· < ·)
  mem_iff : ∀ name, name ∈ names ↔ Defines layer part name ∧ ¬ known part name

/-- Check the definitions of a layer in some sections, one after the other. -/
def checkSections (current layer : Definitions) : List Section → Except ConfigError Unit
  | [] => .ok ()
  | part :: parts => do
      checkKnown part (current part) (layer part)
      checkSections current layer parts

theorem checkSections_single (current layer : Definitions) (part : Section) :
    checkSections current layer [part] = checkKnown part (current part) (layer part) := by
  rw [checkSections]
  cases checkKnown part (current part) (layer part) <;> rfl

theorem checkSections_append (current layer : Definitions) (first second : List Section) :
    checkSections current layer (first ++ second) =
      checkSections current layer first >>= fun _ => checkSections current layer second := by
  induction first with
  | nil => rfl
  | cons part parts ih => rw [List.cons_append, checkSections, checkSections, ih, bind_assoc]

theorem Store.checkOverride_eq (store layer : Store) :
    store.checkOverride layer =
      checkSections store.definitions layer.definitions Section.values := by
  have split : Section.values = [.commands, .packages, .actions] ++ [.elements] := rfl
  rw [split, checkSections_append, checkSections_single]
  simp only [checkSections, bind_assoc, checkOverride]
  rfl

theorem Config.checkOverride_eq (config layer : Config) :
    config.checkOverride layer =
      checkSections config.definitions layer.definitions Section.all := by
  have split : Section.all = Section.values ++ [.workflows] := rfl
  rw [split, checkSections_append, checkSections_single, checkOverride, Store.checkOverride_eq]
  rfl

variable {α : Type} {parts : List Section} {known : Section → String → Prop}
  {current layer : Definitions} {part : Section} {names : List String}

theorem checkKnown_of_subset {current later : NameMap α} (part : Section)
    (subset : later.names ⊆ current.names) : checkKnown part current later = .ok () := by
  rw [checkKnown, NameMap.unknownNames_eq_nil_iff.2 subset]

theorem checkKnown_of_not_subset {current later : NameMap α} (part : Section)
    (unknown : ¬ later.names ⊆ current.names) :
    checkKnown part current later = .error (.unknownKeys part (current.unknownNames later)) := by
  rw [checkKnown]
  split
  next none => exact (unknown (NameMap.unknownNames_eq_nil_iff.1 none)).elim
  next => rfl

namespace FirstUnknown

theorem of_head (unknown : ¬ (layer part).names ⊆ (current part).names) :
    FirstUnknown (part :: parts) (Defines current) layer part
      ((current part).unknownNames (layer part)) where
  first := ⟨[], parts, rfl, by simp⟩
  not_empty := fun none => unknown (NameMap.unknownNames_eq_nil_iff.1 none)
  increasing := NameMap.unknownNames_increasing _ _
  mem_iff := fun _ => NameMap.mem_unknownNames_iff

theorem cons {other : Section} (subset : ∀ name, Defines layer other name → known other name)
    (unknown : FirstUnknown parts known layer part names) :
    FirstUnknown (other :: parts) known layer part names := by
  obtain ⟨⟨earlier, later, rfl, subsets⟩, not_empty, increasing, mem_iff⟩ := unknown
  exact ⟨⟨other :: earlier, later, rfl, List.forall_mem_cons.2 ⟨subset, subsets⟩⟩, not_empty,
    increasing, mem_iff⟩

/-- Where there is a first section with unknown names, some name is unknown there. -/
theorem exists_unknown (unknown : FirstUnknown parts known layer part names) :
    ∃ name, Defines layer part name ∧ ¬ known part name := by
  obtain ⟨name, member⟩ := List.exists_mem_of_ne_nil names unknown.not_empty
  exact ⟨name, (unknown.mem_iff name).1 member⟩

theorem mem (unknown : FirstUnknown parts known layer part names) : part ∈ parts := by
  obtain ⟨earlier, later, rfl, -⟩ := unknown.first
  simp

theorem not_forall_known (unknown : FirstUnknown parts known layer part names) :
    ¬ ∀ other ∈ parts, ∀ name, Defines layer other name → known other name := by
  intro allKnown
  obtain ⟨name, defined, notKnown⟩ := unknown.exists_unknown
  exact notKnown (allKnown part unknown.mem name defined)

/-- There is at most one first section with unknown names. -/
theorem unique {other : Section} {others : List String}
    (unknown : FirstUnknown parts known layer part names)
    (unknownToo : FirstUnknown parts known layer other others) :
    part = other ∧ names = others := by
  obtain ⟨earlier, later, split, before⟩ := unknown.first
  obtain ⟨earlier', later', split', before'⟩ := unknownToo.first
  have same : part = other := by
    rcases List.append_eq_append_iff.1 (split.symm.trans split') with
      ⟨between, rfl, rest⟩ | ⟨between, rfl, rest⟩
    · cases between with
      | nil => exact (List.cons.inj rest).1
      | cons first between =>
          obtain rfl : part = first := (List.cons.inj rest).1
          obtain ⟨name, defined, notKnown⟩ := unknown.exists_unknown
          exact (notKnown (before' part (by simp) name defined)).elim
    · cases between with
      | nil => exact (List.cons.inj rest).1.symm
      | cons first between =>
          obtain rfl : other = first := (List.cons.inj rest).1
          obtain ⟨name, defined, notKnown⟩ := unknownToo.exists_unknown
          exact (notKnown (before other (by simp) name defined)).elim
  subst same
  refine ⟨rfl, ?_⟩
  refine unknown.increasing.eq_of_mem_iff unknownToo.increasing fun name => ?_
  rw [unknown.mem_iff, unknownToo.mem_iff]

/-- What is known may be said in another way. -/
theorem congr {same : Section → String → Prop}
    (iff : ∀ part name, known part name ↔ same part name)
    (unknown : FirstUnknown parts known layer part names) :
    FirstUnknown parts same layer part names := by
  obtain rfl : known = same := funext fun part => funext fun name => propext (iff part name)
  exact unknown

end FirstUnknown

/-- A layer is accepted if all its names are known, and else its first section with
unknown names is reported. -/
theorem checkSections_cases (current layer : Definitions) (parts : List Section) :
    (checkSections current layer parts = .ok () ∧
        ∀ part ∈ parts, ∀ name, Defines layer part name → Defines current part name) ∨
      ∃ part names, checkSections current layer parts = .error (.unknownKeys part names) ∧
        FirstUnknown parts (Defines current) layer part names := by
  induction parts with
  | nil => exact .inl ⟨rfl, by simp⟩
  | cons part parts ih =>
      by_cases subset : (layer part).names ⊆ (current part).names
      · have known : ∀ name, Defines layer part name → Defines current part name :=
          fun _ defined => subset defined
        have step : checkSections current layer (part :: parts) =
            checkSections current layer parts := by
          rw [checkSections, checkKnown_of_subset part subset]
          rfl
        rw [step]
        rcases ih with ⟨accepted, others⟩ | ⟨other, names, refused, unknown⟩
        · exact .inl ⟨accepted, List.forall_mem_cons.2 ⟨known, others⟩⟩
        · exact .inr ⟨other, names, refused, unknown.cons known⟩
      · refine .inr ⟨part, _, ?_, .of_head subset⟩
        rw [checkSections, checkKnown_of_not_subset part subset]
        rfl

/-- A strict layer is merged if it only defines known names, and else refused. -/
theorem Config.override_cases (config layer : Config) :
    (config.override layer = .ok (config.merge layer) ∧
        ∀ part name, Defines layer.definitions part name → Defines config.definitions part name) ∨
      ∃ part names, config.override layer = .error (.unknownKeys part names) ∧
        FirstUnknown Section.all (Defines config.definitions) layer.definitions part names := by
  rw [override, checkOverride_eq]
  rcases checkSections_cases config.definitions layer.definitions Section.all with
    ⟨accepted, known⟩ | ⟨part, names, refused, unknown⟩
  · rw [accepted]
    exact .inl ⟨rfl, fun part name => known part (Section.mem_all part) name⟩
  · rw [refused]
    exact .inr ⟨part, names, rfl, unknown⟩

end Screenplay
