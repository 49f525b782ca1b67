import Mathlib.Data.List.Forall2
import Mathlib.Data.List.Sort
import Screenplay.NameMap

/-!
# Entries of maps from names

Increasing lists of entries are determined by what is in them, so a map is known by
what its names are looked up as.  Putting an entry with a new name into such a list is
the same as adding it anywhere and sorting.
-/

namespace Screenplay

variable {α β : Type}

/-- An increasing list has at most one entry for each name. -/
theorem Increasing.nodup {entries : List (String × α)} (increasing : Increasing entries) :
    (entries.map Prod.fst).Nodup := by
  rw [List.Nodup, List.pairwise_map]
  refine increasing.imp ?_
  intro left right less same
  rw [same] at less
  exact String.lt_irrefl _ less

/-- Increasing lists with the same entries are the same list. -/
theorem Increasing.eq_of_perm {left right : List (String × α)} (first : Increasing left)
    (second : Increasing right) (same : left.Perm right) : left = right :=
  same.eq_of_pairwise
    (fun _ _ _ _ less greater => (String.lt_irrefl _ (String.lt_trans less greater)).elim)
    first second

/-- Increasing lists with the same names have them in the same order. -/
theorem Increasing.names_eq {left : List (String × α)} {right : List (String × β)}
    (first : Increasing left) (second : Increasing right)
    (same : ∀ name, name ∈ left.map Prod.fst ↔ name ∈ right.map Prod.fst) :
    left.map Prod.fst = right.map Prod.fst := by
  have permuted : (left.map Prod.fst).Perm (right.map Prod.fst) :=
    (List.perm_ext_iff_of_nodup first.nodup second.nodup).2 same
  refine permuted.eq_of_pairwise (fun _ _ _ _ less greater => ?_)
    (List.pairwise_map.2 first) (List.pairwise_map.2 second)
  exact (String.lt_irrefl _ (String.lt_trans less greater)).elim

theorem lookup_eq_some_iff_of_nodup {entries : List (String × α)}
    (nodup : (entries.map Prod.fst).Nodup) {name : String} {value : α} :
    entries.lookup name = some value ↔ (name, value) ∈ entries := by
  induction entries with
  | nil => simp
  | cons entry rest ih =>
      rcases entry with ⟨first, firstValue⟩
      rw [List.map_cons, List.nodup_cons] at nodup
      by_cases same : name = first
      · subst same
        have absent : (name, value) ∉ rest := fun member =>
          nodup.1 (List.mem_map.2 ⟨_, member, rfl⟩)
        simp [absent, eq_comm]
      · rw [lookup_cons_of_ne same, ih nodup.2]
        simp [same]

theorem isSome_lookup_iff {entries : List (String × α)} {name : String} :
    (entries.lookup name).isSome = true ↔ name ∈ entries.map Prod.fst := by
  rw [List.lookup_isSome_iff, List.mem_map]
  constructor
  · intro holds
    rcases holds with ⟨entry, member, same⟩
    exact ⟨entry, member, (beq_iff_eq.1 same).symm⟩
  · intro holds
    rcases holds with ⟨entry, member, rfl⟩
    exact ⟨entry, member, beq_self_eq_true _⟩

/-- An entry with a new name is added to a list at some place. -/
theorem perm_insertEntry {name : String} {value : α} {entries : List (String × α)}
    (fresh : name ∉ entries.map Prod.fst) :
    (insertEntry name value entries).Perm ((name, value) :: entries) := by
  induction entries with
  | nil => exact List.Perm.refl _
  | cons entry rest ih =>
      rcases entry with ⟨other, old⟩
      rw [List.map_cons, List.mem_cons, not_or] at fresh
      simp only [insertEntry]
      split
      · exact List.Perm.refl _
      · split
        · exact ((ih fresh.2).cons _).trans (List.Perm.swap ..)
        · rename_i notLess notGreater
          exact (fresh.1 (eq_of_not_lt_of_not_lt notLess notGreater)).elim

/-- An entry that exceeds all others goes to the end. -/
theorem insertEntry_of_above {name : String} {value : α} {entries : List (String × α)}
    (above : ∀ entry ∈ entries, entry.1 < name) :
    insertEntry name value entries = entries ++ [(name, value)] := by
  induction entries with
  | nil => rfl
  | cons entry rest ih =>
      rcases entry with ⟨other, old⟩
      have less : other < name := above _ (List.mem_cons_self ..)
      have notGreater : ¬ name < other := fun greater =>
        String.lt_irrefl _ (String.lt_trans less greater)
      simp only [insertEntry, if_neg notGreater, if_pos less, List.cons_append]
      rw [ih fun entry member => above entry (List.mem_cons_of_mem _ member)]

/-- Lists with the same names in the same order agree entry by entry, if their entries
agree wherever the names do. -/
theorem forall₂_of_names_eq {left : List (String × α)} {right : List (String × β)}
    (same : left.map Prod.fst = right.map Prod.fst) {relation : String × α → String × β → Prop}
    (agree : ∀ entry ∈ left, ∀ other ∈ right, entry.1 = other.1 → relation entry other) :
    List.Forall₂ relation left right := by
  induction left generalizing right with
  | nil =>
      cases right with
      | nil => exact .nil
      | cons other rest => simp at same
  | cons entry rest ih =>
      cases right with
      | nil => simp at same
      | cons other others =>
          rw [List.map_cons, List.map_cons, List.cons.injEq] at same
          refine .cons (agree _ (List.mem_cons_self ..) _ (List.mem_cons_self ..) same.1) ?_
          exact ih same.2 fun entry member other among =>
            agree entry (List.mem_cons_of_mem _ member) other (List.mem_cons_of_mem _ among)

/-- What stands on the left of a pointwise relation has a partner on the right. -/
theorem exists_of_forall₂_of_mem {γ δ : Type} {relation : γ → δ → Prop} {left : List γ}
    {right : List δ} (related : List.Forall₂ relation left right) {item : γ}
    (member : item ∈ left) : ∃ partner ∈ right, relation item partner := by
  induction related with
  | nil => cases member
  | cons holds _ ih =>
      rcases List.mem_cons.1 member with rfl | member
      · exact ⟨_, List.mem_cons_self .., holds⟩
      · rcases ih member with ⟨partner, among, holds⟩
        exact ⟨partner, List.mem_cons_of_mem _ among, holds⟩

/-- If everything on the left has a partner, there is a list of partners. -/
theorem exists_forall₂_of_forall {γ δ : Type} {relation : γ → δ → Prop} {left : List γ}
    (each : ∀ item ∈ left, ∃ partner, relation item partner) :
    ∃ right, List.Forall₂ relation left right := by
  induction left with
  | nil => exact ⟨[], .nil⟩
  | cons item rest ih =>
      rcases each item (List.mem_cons_self ..) with ⟨partner, holds⟩
      obtain ⟨others, related⟩ := ih fun other member => each other (List.mem_cons_of_mem _ member)
      exact ⟨partner :: others, .cons holds related⟩

/-- Lists that agree entry by entry have the same names, if entries that agree do. -/
theorem names_eq_of_forall₂ {relation : String × α → String × β → Prop}
    {left : List (String × α)} {right : List (String × β)}
    (related : List.Forall₂ relation left right)
    (named : ∀ entry other, relation entry other → entry.1 = other.1) :
    left.map Prod.fst = right.map Prod.fst := by
  induction related with
  | nil => rfl
  | cons holds _ ih => rw [List.map_cons, List.map_cons, named _ _ holds, ih]

namespace NameMap

theorem get?_eq_some_iff {map : NameMap α} {name : String} {value : α} :
    map.get? name = some value ↔ (name, value) ∈ map.entries :=
  lookup_eq_some_iff_of_nodup map.increasing.nodup

theorem ext_entries {left right : NameMap α} (same : left.entries = right.entries) :
    left = right := by
  cases left
  cases right
  cases same
  rfl

/-- Maps with the same look-ups are the same map. -/
theorem ext_get? {left right : NameMap α} (same : ∀ name, left.get? name = right.get? name) :
    left = right := by
  refine ext_entries (left.increasing.eq_of_perm right.increasing ?_)
  have distinct : ∀ map : NameMap α, map.entries.Nodup := by
    intro map
    refine map.increasing.imp ?_
    rintro entry _ less rfl
    exact String.lt_irrefl _ less
  refine (List.perm_ext_iff_of_nodup (distinct left) (distinct right)).2 fun entry => ?_
  rw [← get?_eq_some_iff, ← get?_eq_some_iff, same]

/-! ## Names -/

theorem isSome_get?_iff {map : NameMap α} {name : String} :
    (map.get? name).isSome = true ↔ name ∈ map.names :=
  isSome_lookup_iff

theorem mem_names_iff {map : NameMap α} {name : String} :
    name ∈ map.names ↔ ∃ value, map.get? name = some value := by
  rw [← isSome_get?_iff, Option.isSome_iff_exists]

theorem names_increasing (map : NameMap α) : map.names.Pairwise (· < ·) :=
  List.pairwise_map.2 map.increasing

theorem size_eq_length_names (map : NameMap α) : map.size = map.names.length :=
  (List.length_map _).symm

/-- Maps with the same names have them in the same order. -/
theorem names_eq {left : NameMap α} {right : NameMap β}
    (same : ∀ name, name ∈ left.names ↔ name ∈ right.names) : left.names = right.names :=
  left.increasing.names_eq right.increasing same

theorem isEmpty_iff {map : NameMap α} :
    map.isEmpty = true ↔ ∀ name, map.get? name = none := by
  rw [isEmpty, List.isEmpty_iff]
  constructor
  · intro without name
    rw [get?, without, List.lookup_nil]
  · intro misses
    exact congrArg entries (ext_get? misses : map = ∅)

theorem size_eq_zero_iff {map : NameMap α} : map.size = 0 ↔ map.isEmpty = true := by
  rw [size, isEmpty, List.length_eq_zero_iff, List.isEmpty_iff]

theorem mem_names_merge {map later : NameMap α} {name : String} :
    name ∈ (map.merge later).names ↔ name ∈ map.names ∨ name ∈ later.names := by
  rw [← isSome_get?_iff, ← isSome_get?_iff, ← isSome_get?_iff, get?_merge]
  cases later.get? name <;> simp

theorem mem_unknownNames_iff {map later : NameMap α} {name : String} :
    name ∈ map.unknownNames later ↔ name ∈ later.names ∧ name ∉ map.names := by
  rw [unknownNames, List.mem_filter, contains, ← @isSome_get?_iff _ map, Bool.not_eq_true',
    Bool.not_eq_true]

theorem unknownNames_increasing (map later : NameMap α) :
    (map.unknownNames later).Pairwise (· < ·) :=
  later.names_increasing.filter _

theorem unknownNames_eq_nil_iff {map later : NameMap α} :
    map.unknownNames later = [] ↔ later.names ⊆ map.names := by
  rw [List.eq_nil_iff_forall_not_mem]
  constructor
  · intro noneUnknown name member
    by_contra unknown
    exact noneUnknown name (mem_unknownNames_iff.2 ⟨member, unknown⟩)
  · intro known name member
    have unknown := mem_unknownNames_iff.1 member
    exact unknown.2 (known unknown.1)

/-! ## Values in another form -/

/-- The map in which each value is put into another form. -/
def map (change : α → β) (map : NameMap α) : NameMap β where
  entries := map.entries.map fun entry => (entry.1, change entry.2)
  increasing := by
    rw [Increasing, List.pairwise_map]
    exact map.increasing

@[simp] theorem get?_map (change : α → β) (map : NameMap α) (name : String) :
    (map.map change).get? name = (map.get? name).map change := by
  obtain ⟨entries, increasing⟩ := map
  change (entries.map _).lookup name = (entries.lookup name).map change
  clear increasing
  induction entries with
  | nil => rfl
  | cons entry rest ih =>
      rw [List.map_cons, List.lookup_cons, List.lookup_cons, ih]
      cases name == entry.1 <;> rfl

end NameMap

end Screenplay
