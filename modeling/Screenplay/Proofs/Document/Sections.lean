import Screenplay.Proofs.Document.Description
import Screenplay.Proofs.NameMap

/-!
# What sections and documents describe

A section describes a map from names if its names are not blank and differ without
their padding, and its entries describe the values of the map.  The readers sort the
entries of a section before they read them, which is a matter of their own: the
relation speaks of the entries in the order of the document.

A document describes a configuration section by section: `ofJson_eq_ok_iff`.
-/

namespace Screenplay

namespace Document

variable {α : Type}

/-- An entry of a section with the name that it defines. -/
def unpadded (entry : String × Json) : String × Json :=
  (Text.trim entry.1, entry.2)

/-- The names of entries are not blank and differ without their padding. -/
structure Defines (entries : Members) : Prop where
  named : ∀ entry ∈ entries, Text.trim entry.1 ≠ ""
  distinct : ((entries.map unpadded).map Prod.fst).Nodup

/-- The entries of a section describe a map. -/
structure DescribesEntries (form : String → α → Json → Prop) (map : NameMap α)
    (entries : Members) : Prop extends Defines entries where
  described : ∀ entry ∈ entries, ∃ value,
    map.get? (Text.trim entry.1) = some value ∧ form (Text.trim entry.1) value entry.2
  complete : ∀ name value, map.get? name = some value →
    ∃ entry ∈ entries, Text.trim entry.1 = name

/-- The members of a document describe the map of a section, which may be absent. -/
def DescribesSection (part : Section) (form : String → α → Json → Prop) (map : NameMap α)
    (members : Members) : Prop :=
  (Lacks members part.name ∧ map = ∅) ∨
    Requires members part.name (IsObject (DescribesEntries form map))

/-! ## Sorting entries -/

theorem sortEntries_eq_ok_iff {part : Section} {sorted entries result : Members}
    (increasing : Increasing sorted) :
    sortEntries part sorted entries = .ok result ↔
      (∀ entry ∈ entries, Text.trim entry.1 ≠ "") ∧
        ((entries.map unpadded ++ sorted).map Prod.fst).Nodup ∧
        Increasing result ∧ result.Perm (entries.map unpadded ++ sorted) := by
  induction entries generalizing sorted with
  | nil =>
      simp only [sortEntries, Except.ok.injEq, List.map_nil, List.nil_append]
      constructor
      · intro same
        subst same
        exact ⟨by simp, increasing.nodup, increasing, .refl _⟩
      · intro holds
        rcases holds with ⟨-, -, ordered, same⟩
        exact increasing.eq_of_perm ordered same.symm
  | cons entry rest ih =>
      rcases entry with ⟨padded, value⟩
      simp only [sortEntries]
      split
      next blank =>
        constructor
        · intro impossible
          cases impossible
        · intro holds
          rcases holds with ⟨named, -⟩
          exact (named _ (List.mem_cons_self ..) (by simpa using blank)).elim
      next named =>
        split
        next defined =>
          constructor
          · intro impossible
            cases impossible
          · intro holds
            rcases holds with ⟨-, nodup, -⟩
            rw [List.map_cons, List.cons_append, List.map_cons, List.nodup_cons,
              List.map_append, List.mem_append, not_or] at nodup
            exact (nodup.1.2 (isSome_lookup_iff.1 defined)).elim
        next undefined =>
          have fresh := mt isSome_lookup_iff.2 undefined
          have inserted : (rest.map unpadded ++ insertEntry (Text.trim padded) value sorted).Perm
              (((padded, value) :: rest).map unpadded ++ sorted) :=
            ((perm_insertEntry fresh).append_left _).trans List.perm_middle
          rw [ih (increasing_insertEntry increasing), (inserted.map Prod.fst).nodup_iff]
          constructor
          · intro holds
            rcases holds with ⟨restNamed, nodup, ordered, same⟩
            refine ⟨?_, nodup, ordered, same.trans inserted⟩
            rw [List.forall_mem_cons]
            exact ⟨by simpa using named, restNamed⟩
          · intro holds
            rcases holds with ⟨restNamed, nodup, ordered, same⟩
            exact ⟨(List.forall_mem_cons.1 restNamed).2, nodup, ordered,
              same.trans inserted.symm⟩

/-- Entries that can be sorted are sorted. -/
theorem exists_sorted {entries : List (String × α)} (nodup : (entries.map Prod.fst).Nodup) :
    ∃ sorted, Increasing sorted ∧ sorted.Perm entries := by
  induction entries with
  | nil => exact ⟨[], List.Pairwise.nil, .refl _⟩
  | cons entry rest ih =>
      rcases entry with ⟨name, value⟩
      rw [List.map_cons, List.nodup_cons] at nodup
      rcases ih nodup.2 with ⟨sorted, increasing, same⟩
      have fresh : name ∉ sorted.map Prod.fst := fun member =>
        nodup.1 ((same.map Prod.fst).mem_iff.1 member)
      exact ⟨insertEntry name value sorted, increasing_insertEntry increasing,
        (perm_insertEntry fresh).trans (same.cons _)⟩

/-! ## Reading sections -/

/-- An entry that has been sorted describes an entry of a map. -/
def EntryForm (form : String → α → Json → Prop) (entry : String × Json) (named : String × α) :
    Prop :=
  entry.1 = named.1 ∧ form entry.1 named.2 entry.2

theorem readEntries_from_eq_ok_iff {part : Section}
    {read : String → String → Json → Except ConfigError α} {form : String → α → Json → Prop}
    (reads : ∀ name context value result,
      read name context value = .ok result ↔ form name result value)
    {entries : Members} (increasing : Increasing entries) {start map : NameMap α}
    (above : ∀ earlier ∈ start.entries, ∀ entry ∈ entries, earlier.1 < entry.1) :
    entries.foldlM
        (fun map (name, value) => do
          let value ← read name (part.name ++ "." ++ name) value
          return map.insert name value)
        start = .ok map ↔
      ∃ added, map.entries = start.entries ++ added ∧
        List.Forall₂ (EntryForm form) entries added := by
  induction entries generalizing start with
  | nil =>
      simp only [List.foldlM_nil, pure_eq_ok_iff, List.forall₂_nil_left_iff, exists_eq_right,
        List.append_nil]
      constructor
      · intro same
        subst same
        rfl
      · intro same
        exact NameMap.ext_entries same.symm
  | cons entry rest ih =>
      rcases entry with ⟨name, value⟩
      rcases List.pairwise_cons.1 increasing with ⟨below, restIncreasing⟩
      have atEnd : ∀ result, (start.insert name result).entries =
          start.entries ++ [(name, result)] := fun result =>
        insertEntry_of_above fun earlier member => above earlier member _ (List.mem_cons_self ..)
      have stillAbove : ∀ result, ∀ earlier ∈ (start.insert name result).entries,
          ∀ entry ∈ rest, earlier.1 < entry.1 := by
        intro result earlier member entry among
        rw [atEnd, List.mem_append, List.mem_singleton] at member
        rcases member with member | rfl
        · exact above earlier member entry (List.mem_cons_of_mem _ among)
        · exact below entry among
      simp only [List.foldlM_cons, bind_eq_ok_iff, pure_eq_ok_iff, reads]
      constructor
      · intro holds
        rcases holds with ⟨_, ⟨result, formed, rfl⟩, restRead⟩
        rcases (ih restIncreasing (stillAbove result)).1 restRead with ⟨added, same, restFormed⟩
        refine ⟨(name, result) :: added, ?_, .cons ⟨rfl, formed⟩ restFormed⟩
        rw [same, atEnd, List.append_assoc, List.singleton_append]
      · intro holds
        rcases holds with ⟨_, same, formedAll⟩
        rcases List.forall₂_cons_left_iff.1 formedAll with
          ⟨⟨_, result⟩, added, ⟨rfl, formed⟩, restFormed, rfl⟩
        refine ⟨_, ⟨result, formed, rfl⟩,
          (ih restIncreasing (stillAbove result)).2 ⟨added, ?_, restFormed⟩⟩
        rw [same, atEnd, List.append_assoc, List.singleton_append]

theorem readEntries_eq_ok_iff {part : Section}
    {read : String → String → Json → Except ConfigError α} {form : String → α → Json → Prop}
    (reads : ∀ name context value result,
      read name context value = .ok result ↔ form name result value)
    {entries : Members} (increasing : Increasing entries) {map : NameMap α} :
    readEntries part read entries = .ok map ↔
      List.Forall₂ (EntryForm form) entries map.entries := by
  rw [readEntries, readEntries_from_eq_ok_iff reads increasing]
  · constructor
    · intro holds
      rcases holds with ⟨added, same, formed⟩
      exact same ▸ formed
    · intro formed
      exact ⟨map.entries, rfl, formed⟩
  · intro earlier member
    cases member

/-- Sorted entries describe a map entry by entry if, and only if, the entries that were
sorted describe it. -/
theorem describesEntries_iff {form : String → α → Json → Prop} {map : NameMap α}
    {entries sorted : Members} (increasing : Increasing sorted)
    (same : sorted.Perm (entries.map unpadded)) (defines : Defines entries) :
    List.Forall₂ (EntryForm form) sorted map.entries ↔ DescribesEntries form map entries := by
  have isSorted : ∀ entry, entry ∈ sorted ↔ ∃ padded ∈ entries, unpadded padded = entry :=
    fun entry => same.mem_iff.trans List.mem_map
  constructor
  · intro formed
    refine ⟨defines, ?_, ?_⟩
    · intro entry member
      rcases exists_of_forall₂_of_mem formed ((isSorted _).2 ⟨entry, member, rfl⟩) with
        ⟨⟨name, value⟩, among, sameName, form⟩
      simp only [unpadded] at sameName form
      exact ⟨value, NameMap.get?_eq_some_iff.2 (by rw [sameName]; exact among), form⟩
    · intro name value found
      rcases exists_of_forall₂_of_mem formed.flip (NameMap.get?_eq_some_iff.1 found) with
        ⟨entry, member, sameName, -⟩
      rcases (isSorted _).1 member with ⟨padded, among, rfl⟩
      exact ⟨padded, among, sameName⟩
  · intro holds
    rcases holds with ⟨-, described, complete⟩
    have isDescribed : ∀ entry ∈ sorted, ∃ value,
        (entry.1, value) ∈ map.entries ∧ form entry.1 value entry.2 := by
      intro entry member
      rcases (isSorted _).1 member with ⟨padded, among, rfl⟩
      rcases described padded among with ⟨value, found, formed⟩
      exact ⟨value, NameMap.get?_eq_some_iff.1 found, formed⟩
    have sameNames : sorted.map Prod.fst = map.entries.map Prod.fst := by
      refine increasing.names_eq map.increasing fun name => ?_
      constructor
      · intro member
        rcases List.mem_map.1 member with ⟨entry, among, rfl⟩
        rcases isDescribed entry among with ⟨value, found, -⟩
        exact List.mem_map.2 ⟨_, found, rfl⟩
      · intro member
        rcases List.mem_map.1 member with ⟨⟨_, value⟩, found, rfl⟩
        rcases complete _ _ (NameMap.get?_eq_some_iff.2 found) with ⟨padded, among, rfl⟩
        exact List.mem_map.2 ⟨_, (isSorted _).2 ⟨padded, among, rfl⟩, rfl⟩
    refine forall₂_of_names_eq sameNames ?_
    intro entry member other among sameName
    rcases other with ⟨name, value⟩
    rcases isDescribed entry member with ⟨other, found, formed⟩
    rw [sameName] at found
    have sameValue := (NameMap.get?_eq_some_iff.2 found).symm.trans
      (NameMap.get?_eq_some_iff.2 among)
    cases sameValue
    exact ⟨sameName, formed⟩

/-- A section is read as the map that it describes. -/
theorem readSection_eq_ok_iff {part : Section}
    {read : String → String → Json → Except ConfigError α} {form : String → α → Json → Prop}
    (reads : ∀ name context value result,
      read name context value = .ok result ↔ form name result value)
    {members : Members} {map : NameMap α} :
    readSection part read members = .ok map ↔ DescribesSection part form map members := by
  rw [readSection, DescribesSection]
  cases given : property? members part.name with
  | none =>
      have lacks := property?_eq_none_iff.1 given
      constructor
      · intro same
        cases same
        exact .inl ⟨lacks, rfl⟩
      · intro holds
        rcases holds with ⟨-, rfl⟩ | ⟨value, gives, -⟩
        · rfl
        · exact (lacks value gives).elim
  | some value =>
      have gives := property?_eq_some_iff.1 given
      simp only [bind_eq_ok_iff, asObject_eq_ok_iff,
        sortEntries_eq_ok_iff (show Increasing ([] : Members) from List.Pairwise.nil)]
      constructor
      · intro holds
        rcases holds with ⟨entries, isObject, sorted, ⟨named, distinct, increasing, same⟩, read⟩
        rw [List.append_nil] at distinct same
        rw [readEntries_eq_ok_iff reads increasing,
          describesEntries_iff increasing same ⟨named, distinct⟩] at read
        exact .inr ⟨value, gives, entries, isObject, read⟩
      · intro holds
        rcases holds with ⟨lacks, -⟩ | ⟨other, givesOther, entries, isObject, describes⟩
        · exact (lacks value gives).elim
        · rw [← gives.unique givesOther] at isObject
          rcases exists_sorted describes.distinct with ⟨sorted, increasing, same⟩
          refine ⟨entries, isObject, sorted, ?_, ?_⟩
          · rw [List.append_nil]
            exact ⟨describes.named, describes.distinct, increasing, same⟩
          · rw [readEntries_eq_ok_iff reads increasing]
            exact (describesEntries_iff increasing same describes.toDefines).2 describes

/-! ## Documents -/

/-- A value of a section with texts spells a text that is not blank. -/
def DescribesText (_name : String) (text : String) (value : Json) : Prop :=
  Spells text value ∧ text ≠ ""

/-- A value of a section with elements describes an element. -/
def DescribesNamedElement (_name : String) (descriptor : Descriptor) (value : Json) : Prop :=
  IsObject (DescribesElement descriptor) value

/-- The members of a document describe a configuration. -/
structure DescribesConfig (config : Config) (members : Members) : Prop where
  names : NamedAmong (Section.all.map Section.name) members
  commands : DescribesSection .commands DescribesText config.store.commands members
  packages : DescribesSection .packages DescribesText config.store.packages members
  actions : DescribesSection .actions DescribesText config.store.actions members
  elements : DescribesSection .elements DescribesNamedElement config.store.elements members
  workflows : DescribesSection .workflows DescribesWorkflow config.workflows members

/-- A document is read as the configuration that it describes. -/
theorem ofJson_eq_ok_iff {value : Json} {config : Config} :
    Config.ofJson value = .ok config ↔ IsObject (DescribesConfig config) value := by
  have readsText : ∀ name context value text,
      readText name context value = .ok text ↔ DescribesText name text value :=
    fun _ _ _ _ => asText_eq_ok_iff
  have readsElement : ∀ name context value descriptor,
      readElement name context value = .ok descriptor ↔
        DescribesNamedElement name descriptor value :=
    fun _ _ _ _ => readDescriptor_eq_ok_iff
  have readsWorkflow : ∀ name context value workflow,
      readWorkflow name context value = .ok workflow ↔ DescribesWorkflow name workflow value :=
    fun _ _ _ _ => readWorkflow_eq_ok_iff
  simp only [Config.ofJson, bind_eq_ok_iff, asObject_eq_ok_iff, checkNames_eq_ok_iff,
    readSection_eq_ok_iff readsText, readSection_eq_ok_iff readsElement,
    readSection_eq_ok_iff readsWorkflow, pure_eq_ok_iff]
  constructor
  · intro holds
    rcases holds with
      ⟨members, isObject, -, names, _, commands, _, packages, _, actions, _, elements,
        _, workflows, rfl⟩
    exact ⟨members, isObject, names, commands, packages, actions, elements, workflows⟩
  · intro holds
    rcases holds with ⟨members, isObject, names, commands, packages, actions, elements, workflows⟩
    exact ⟨members, isObject, (), names, _, commands, _, packages, _, actions, _, elements,
      _, workflows, rfl⟩

end Document

end Screenplay
