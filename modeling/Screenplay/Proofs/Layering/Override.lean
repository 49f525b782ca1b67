import Screenplay.Proofs.Layering.Definitions

/-!
# Strict layers in place

What holds definitions may be changed in place, one section after the other.  An error
does not undo what was written before it, so it matters in which order things are done:
a strict layer is checked in every section before any section is written.  For this
reason it is taken over as a whole or not at all.
-/

namespace Screenplay

/-- Work in place that may end with an error.  What was written before stays. -/
abbrev InPlace (Held Result : Type) := EStateM ConfigError Held Result

namespace InPlace

variable {Held : Type}

/-- End with the error of a check, and write nothing. -/
def check (test : Held → Except ConfigError Unit) : InPlace Held Unit := fun held =>
  match test held with
  | .ok () => .ok () held
  | .error error => .error error held

/-- Work on some sections, one after the other. -/
def each (work : Section → InPlace Held Unit) : List Section → InPlace Held Unit
  | [] => pure ()
  | part :: parts => do
      work part
      each work parts

/-- Take over the definitions of a layer that only defines known names: check every
section, then write every section. -/
def override (parts : List Section) (definitions : Held → Definitions)
    (take : Held → Held → Section → Held) (layer : Held) : InPlace Held Unit := do
  each (fun part => check fun held =>
    checkKnown part (definitions held part) (definitions layer part)) parts
  each (fun part => modify fun held => take held layer part) parts

/-- What is left of a change that was worked out apart: the result, or what there was
before. -/
def ofResult (held : Held) : Except ConfigError Held → EStateM.Result ConfigError Held Unit
  | .ok after => .ok () after
  | .error error => .error error held

end InPlace

/-- Take over the values of one section of a layer. -/
def Store.take (store layer : Store) : Section → Store
  | .commands => { store with commands := store.commands.merge layer.commands }
  | .packages => { store with packages := store.packages.merge layer.packages }
  | .actions => { store with actions := store.actions.merge layer.actions }
  | .elements => { store with elements := store.elements.merge layer.elements }
  | .workflows => store

/-- Take over the values of one section of a layer. -/
def Config.take (config layer : Config) : Section → Config
  | .workflows => { config with workflows := config.workflows.merge layer.workflows }
  | part => { config with store := config.store.take layer.store part }

/-- Take over a strict layer in place. -/
def Store.overrideInPlace (layer : Store) : InPlace Store Unit :=
  InPlace.override Section.values definitions take layer

/-- Take over a strict layer in place. -/
def Config.overrideInPlace (layer : Config) : InPlace Config Unit :=
  InPlace.override Section.all definitions take layer

/-- What a strict layer comes to in place.  It is accepted if and only if it defines known
names only, and then the names stay and its values win.  When it is refused, everything
is as it was, and the first section with unknown names is reported with all of them. -/
structure Atomic {Held : Type} (parts : List Section) (definitions : Held → Definitions)
    (held layer : Held) (ended : EStateM.Result ConfigError Held Unit) : Prop where
  accepted_iff : (∃ after, ended = .ok () after) ↔
    ∀ part ∈ parts, ∀ name, Defines (definitions layer) part name →
      Defines (definitions held) part name
  names_eq : ∀ after, ended = .ok () after →
    ∀ part ∈ parts, (definitions after part).names = (definitions held part).names
  values : ∀ after, ended = .ok () after → ∀ part ∈ parts, ∀ name,
    (definitions after part).get? name =
      ((definitions layer part).get? name <|> (definitions held part).get? name)
  refused : ∀ error after, ended = .error error after →
    after = held ∧ ∃ part names, error = .unknownKeys part names ∧
      FirstUnknown parts (Defines (definitions held)) (definitions layer) part names

/-! ## Runs -/

namespace InPlace

variable {Held : Type} {parts : List Section} {definitions : Held → Definitions}
  {take : Held → Held → Section → Held} {held layer : Held}

theorem run_check (test : Held → Except ConfigError Unit) (held : Held) :
    (check test).run held = ofResult held ((test held).map fun _ => held) := by
  rw [EStateM.run, check]
  cases test held <;> rfl

/-- Checks change nothing, and end like those of the definitions there are. -/
theorem run_checks (parts : List Section) (definitions : Held → Definitions)
    (held layer : Held) :
    (each (fun part => check fun held =>
        checkKnown part (definitions held part) (definitions layer part)) parts).run held =
      ofResult held
        ((checkSections (definitions held) (definitions layer) parts).map fun _ => held) := by
  induction parts with
  | nil => rfl
  | cons part parts ih =>
      rw [each, checkSections, EStateM.run_bind, run_check]
      cases checkKnown part (definitions held part) (definitions layer part) with
      | ok => exact ih
      | error => rfl

/-- Writing succeeds, and leaves what comes of all sections. -/
theorem run_writes (parts : List Section) (take : Held → Held → Section → Held)
    (held layer : Held) :
    (each (fun part => modify fun held => take held layer part) parts).run held =
      .ok () (parts.foldl (fun held part => take held layer part) held) := by
  induction parts generalizing held with
  | nil => rfl
  | cons part parts ih => exact ih _

/-- A strict layer in place comes to what it would come to apart. -/
theorem run_override (parts : List Section) (definitions : Held → Definitions)
    (take : Held → Held → Section → Held) (held layer : Held) :
    (override parts definitions take layer).run held =
      ofResult held ((checkSections (definitions held) (definitions layer) parts).map fun _ =>
        parts.foldl (fun held part => take held layer part) held) := by
  rw [override, EStateM.run_bind, run_checks]
  cases checkSections (definitions held) (definitions layer) parts with
  | ok => exact run_writes parts take held layer
  | error => rfl

end InPlace

/-! ## Atomicity -/

/-- A layer of which the known names are merged into each section is taken over as a
whole or not at all. -/
theorem atomic_of_merge {Held : Type} {parts : List Section} {definitions : Held → Definitions}
    {held layer merged : Held}
    (merges : ∀ part ∈ parts,
      definitions merged part = (definitions held part).merge (definitions layer part)) :
    Atomic parts definitions held layer
      (InPlace.ofResult held
        ((checkSections (definitions held) (definitions layer) parts).map fun _ => merged)) := by
  rcases checkSections_cases (definitions held) (definitions layer) parts with
    ⟨accepted, known⟩ | ⟨part, names, refused, unknown⟩
  · rw [accepted]
    constructor
    case accepted_iff => exact ⟨fun _ => known, fun _ => ⟨merged, rfl⟩⟩
    case names_eq =>
      rintro after ⟨⟩ part member
      rw [merges part member]
      refine NameMap.names_eq fun name => ?_
      rw [NameMap.mem_names_merge]
      exact or_iff_left_of_imp fun defined => known part member name defined
    case values =>
      rintro after ⟨⟩ part member name
      rw [merges part member, NameMap.get?_merge]
    case refused =>
      rintro error after ⟨⟩
  · rw [refused]
    constructor
    case accepted_iff =>
      refine ⟨?_, fun known => (unknown.not_forall_known known).elim⟩
      rintro ⟨after, ⟨⟩⟩
    case names_eq =>
      rintro after ⟨⟩
    case values =>
      rintro after ⟨⟩
    case refused =>
      rintro error after ⟨⟩
      exact ⟨rfl, part, names, rfl, unknown⟩

theorem Store.run_overrideInPlace (store layer : Store) :
    (overrideInPlace layer).run store = InPlace.ofResult store (store.override layer) := by
  rw [overrideInPlace, InPlace.run_override, override, checkOverride_eq]
  rfl

theorem Config.run_overrideInPlace (config layer : Config) :
    (overrideInPlace layer).run config = InPlace.ofResult config (config.override layer) := by
  rw [overrideInPlace, InPlace.run_override, override, checkOverride_eq]
  rfl

/-- Strict layers are atomic, for configurations and for stores, and taking one over in
place is the same as working out its result apart. -/
theorem override_is_atomic :
    (∀ config layer : Config,
      let ended := (Config.overrideInPlace layer).run config
      Atomic Section.all Config.definitions config layer ended ∧
        ended = InPlace.ofResult config (config.override layer)) ∧
    ∀ store layer : Store,
      let ended := (Store.overrideInPlace layer).run store
      Atomic Section.values Store.definitions store layer ended ∧
        ended = InPlace.ofResult store (store.override layer) := by
  constructor
  · intro config layer ended
    refine ⟨?_, Config.run_overrideInPlace config layer⟩
    change Atomic _ _ _ _ ((Config.overrideInPlace layer).run config)
    rw [Config.overrideInPlace, InPlace.run_override]
    exact atomic_of_merge fun part _ => Config.definitions_merge config layer part
  · intro store layer ended
    refine ⟨?_, Store.run_overrideInPlace store layer⟩
    change Atomic _ _ _ _ ((Store.overrideInPlace layer).run store)
    rw [Store.overrideInPlace, InPlace.run_override]
    exact atomic_of_merge fun part _ => Store.definitions_merge store layer part

end Screenplay
