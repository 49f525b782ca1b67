/-!
# Maps from names

A finite map whose names are held in increasing order, so that two maps with the
same entries are the same value.  Names are compared by code point.
-/

namespace Screenplay

/-- The entries of a map from names: the names increase strictly. -/
def Increasing {α : Type} (entries : List (String × α)) : Prop :=
  entries.Pairwise fun left right => left.1 < right.1

/-- Put an entry into an increasing list, replacing the value that its name had
there. -/
def insertEntry {α : Type} (name : String) (value : α) :
    List (String × α) → List (String × α)
  | [] => [(name, value)]
  | (other, old) :: rest =>
      if name < other then (name, value) :: (other, old) :: rest
      else if other < name then (other, old) :: insertEntry name value rest
      else (name, value) :: rest

theorem forall_insertEntry {α : Type} {name : String} {value : α}
    {entries : List (String × α)} {property : String → Prop}
    (holds : property name) (everywhere : ∀ entry ∈ entries, property entry.1) :
    ∀ entry ∈ insertEntry name value entries, property entry.1 := by
  induction entries with
  | nil => simpa [insertEntry] using holds
  | cons entry rest ih =>
      obtain ⟨other, old⟩ := entry
      have head : property other := everywhere _ (List.mem_cons_self ..)
      have tail : ∀ entry ∈ rest, property entry.1 := fun entry member =>
        everywhere entry (List.mem_cons_of_mem _ member)
      simp only [insertEntry]
      split
      · intro entry member
        rcases List.mem_cons.1 member with rfl | member
        · exact holds
        · exact everywhere entry member
      · split
        · intro entry member
          rcases List.mem_cons.1 member with rfl | member
          · exact head
          · exact ih tail entry member
        · intro entry member
          rcases List.mem_cons.1 member with rfl | member
          · exact holds
          · exact tail entry member

/-- Names that are not ordered either way are equal. -/
theorem eq_of_not_lt_of_not_lt {left right : String}
    (notLess : ¬ left < right) (notGreater : ¬ right < left) : left = right :=
  String.le_antisymm (String.not_lt.1 notGreater) (String.not_lt.1 notLess)

theorem increasing_insertEntry {α : Type} {name : String} {value : α}
    {entries : List (String × α)} (increasing : Increasing entries) :
    Increasing (insertEntry name value entries) := by
  induction entries with
  | nil => simp [insertEntry, Increasing]
  | cons entry rest ih =>
      obtain ⟨other, old⟩ := entry
      obtain ⟨below, restIncreasing⟩ := List.pairwise_cons.1 increasing
      simp only [insertEntry]
      split
      · rename_i less
        refine List.pairwise_cons.2 ⟨?_, increasing⟩
        intro entry member
        rcases List.mem_cons.1 member with rfl | member
        · exact less
        · exact String.lt_trans less (below entry member)
      · split
        · rename_i greater
          refine List.pairwise_cons.2 ⟨?_, ih restIncreasing⟩
          exact forall_insertEntry greater below
        · rename_i notLess notGreater
          refine List.pairwise_cons.2 ⟨?_, restIncreasing⟩
          rw [eq_of_not_lt_of_not_lt notLess notGreater]
          exact below

theorem lookup_cons_self {α : Type} (name : String) (value : α)
    (entries : List (String × α)) : ((name, value) :: entries).lookup name = some value := by
  simp

theorem lookup_cons_of_ne {α : Type} {name other : String} (distinct : other ≠ name)
    (value : α) (entries : List (String × α)) :
    ((name, value) :: entries).lookup other = entries.lookup other := by
  have skips : (other == name) = false := by simpa using distinct
  simp [List.lookup_cons, skips]

/-- An entry that is put into a list is found under its name, and the entries of other
names are found as before. -/
theorem lookup_insertEntry {α : Type} (name other : String) (value : α)
    (entries : List (String × α)) :
    (insertEntry name value entries).lookup other =
      if other = name then some value else entries.lookup other := by
  induction entries with
  | nil =>
      by_cases same : other = name
      · simp [insertEntry, same]
      · rw [insertEntry, lookup_cons_of_ne same, if_neg same]
  | cons entry rest ih =>
      obtain ⟨first, old⟩ := entry
      simp only [insertEntry]
      split
      · by_cases same : other = name
        · simp [same]
        · rw [lookup_cons_of_ne same, if_neg same]
      · split
        · rename_i greater
          by_cases atFirst : other = first
          · subst atFirst
            have distinct : other ≠ name := fun same => String.lt_irrefl _ (same ▸ greater)
            rw [lookup_cons_self, if_neg distinct, lookup_cons_self]
          · rw [lookup_cons_of_ne atFirst, lookup_cons_of_ne atFirst, ih]
        · rename_i notLess notGreater
          have same := eq_of_not_lt_of_not_lt notLess notGreater
          subst same
          by_cases atFirst : other = name
          · simp [atFirst]
          · rw [lookup_cons_of_ne atFirst, if_neg atFirst, lookup_cons_of_ne atFirst]

/-- No entry is found under a name that all entries exceed. -/
theorem lookup_eq_none_of_lt {α : Type} {name : String} {entries : List (String × α)}
    (above : ∀ entry ∈ entries, name < entry.1) : entries.lookup name = none := by
  induction entries with
  | nil => rfl
  | cons entry rest ih =>
      have less : name < entry.1 := above entry (List.mem_cons_self ..)
      have distinct : name ≠ entry.1 := fun same => String.lt_irrefl _ (same ▸ less)
      rw [lookup_cons_of_ne distinct]
      exact ih fun later member => above later (List.mem_cons_of_mem _ member)

/-- A finite map from names. -/
structure NameMap (α : Type) where
  entries : List (String × α)
  increasing : Increasing entries

namespace NameMap

variable {α : Type}

/-- The map without entries. -/
def empty : NameMap α := ⟨[], List.Pairwise.nil⟩

instance : EmptyCollection (NameMap α) := ⟨empty⟩
instance : Inhabited (NameMap α) := ⟨empty⟩

/-- Give a name a value. -/
def insert (map : NameMap α) (name : String) (value : α) : NameMap α :=
  ⟨insertEntry name value map.entries, increasing_insertEntry map.increasing⟩

/-- The value of a name. -/
def get? (map : NameMap α) (name : String) : Option α :=
  map.entries.lookup name

/-- Whether a name has a value. -/
def contains (map : NameMap α) (name : String) : Bool :=
  (map.get? name).isSome

/-- The names, in increasing order. -/
def names (map : NameMap α) : List String :=
  map.entries.map Prod.fst

/-- The number of names. -/
def size (map : NameMap α) : Nat :=
  map.entries.length

/-- Whether no name has a value. -/
def isEmpty (map : NameMap α) : Bool :=
  map.entries.isEmpty

/-- Give every name of `later` the value that it has there. -/
def merge (map later : NameMap α) : NameMap α :=
  later.entries.foldl (fun merged entry => merged.insert entry.1 entry.2) map

/-- The names of `later` that have no value in `map`. -/
def unknownNames (map later : NameMap α) : List String :=
  later.names.filter fun name => !map.contains name

/-- The map with the given entries, of which a later one replaces an earlier one
with its name. -/
def ofList (entries : List (String × α)) : NameMap α :=
  entries.foldl (fun map entry => map.insert entry.1 entry.2) empty

@[simp] theorem get?_empty (name : String) : (∅ : NameMap α).get? name = none := rfl

/-- A name has the value that it was given last. -/
@[simp] theorem get?_insert (map : NameMap α) (name other : String) (value : α) :
    (map.insert name value).get? other = if other = name then some value else map.get? other :=
  lookup_insertEntry name other value map.entries

theorem get?_foldl_insert (entries : List (String × α)) (increasing : Increasing entries)
    (map : NameMap α) (name : String) :
    (entries.foldl (fun merged entry => merged.insert entry.1 entry.2) map).get? name =
      (entries.lookup name <|> map.get? name) := by
  induction entries generalizing map with
  | nil => simp
  | cons entry rest ih =>
      obtain ⟨below, restIncreasing⟩ := List.pairwise_cons.1 increasing
      obtain ⟨first, value⟩ := entry
      rw [List.foldl_cons, ih restIncreasing, get?_insert]
      by_cases same : name = first
      · subst same
        simp [lookup_eq_none_of_lt below]
      · rw [if_neg same, lookup_cons_of_ne same]

/-- After a merge the values of the later map win. -/
@[simp] theorem get?_merge (map later : NameMap α) (name : String) :
    (map.merge later).get? name = (later.get? name <|> map.get? name) :=
  get?_foldl_insert later.entries later.increasing map name

end NameMap

end Screenplay
