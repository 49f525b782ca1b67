import Screenplay.Proofs.Document.Sections

/-!
# Objects with an open member

An object one member of which has its value left open is a slot.  It serves a property if
the property is read from the open member, whatever its value is.  Then the other
properties do not depend on the value that is put into the slot, so that what an object
describes changes in one place only.
-/

namespace Screenplay.Document

/-- The members of an object, the value of one of which is left open. -/
structure Slot where
  before : Members
  written : String
  after : Members

namespace Slot

/-- The members with a value for the open one. -/
def fill (slot : Slot) (value : Json) : Members :=
  slot.before ++ (slot.written, value) :: slot.after

/-- The other members. -/
def rest (slot : Slot) : Members :=
  slot.before ++ slot.after

/-- A property is read from the open member. -/
def Serves (slot : Slot) (name : String) : Prop :=
  ∀ value, ReadFrom (slot.fill value) name value

end Slot

/-- Members that agree in all properties but one. -/
structure AlikeBut (name : String) (members others : Members) : Prop where
  gives : ∀ {other}, Text.trim other = other → other ≠ name →
    Gives members other = Gives others other
  named : ∀ {allowed}, name ∈ allowed → (NamedAmong allowed members ↔ NamedAmong allowed others)

variable {slot : Slot} {members others : Members} {name other : String} {value found : Json}

/-! ## Filling a slot -/

namespace Slot

theorem perm_fill (slot : Slot) (value : Json) :
    (slot.fill value).Perm ((slot.written, value) :: slot.rest) :=
  List.perm_middle

theorem mem_fill_iff {member : String × Json} :
    member ∈ slot.fill value ↔ member = (slot.written, value) ∨ member ∈ slot.rest := by
  rw [(slot.perm_fill value).mem_iff, List.mem_cons]

/-- A property with another name is read from one of the other members. -/
theorem readFrom_fill_iff (plain : Text.trim other = other)
    (differs : Text.trim slot.written ≠ other) :
    ReadFrom (slot.fill value) other found ↔ ReadFrom slot.rest other found := by
  have unlike : other ≠ slot.written := by
    rintro rfl
    exact differs plain
  have skips : (Text.trim slot.written == other) = false := beq_eq_false_iff_ne.2 differs
  simp only [readFrom_iff, fill, rest, List.lookup_append, List.find?_append,
    lookup_cons_of_ne unlike, List.find?_cons, skips]

theorem Serves.readFrom_iff (serves : slot.Serves name) :
    ReadFrom (slot.fill value) name found ↔ found = value := by
  constructor
  · intro read
    exact read.unique (serves value)
  · intro same
    subst same
    exact serves found

/-- The open member has the name of the property that it serves, but for padding. -/
theorem Serves.trim_written (serves : slot.Serves name) (plain : Text.trim name = name) :
    Text.trim slot.written = name := by
  apply Classical.byContradiction
  intro differs
  -- Otherwise the property would not depend on the value of the open member.
  have first := (readFrom_fill_iff plain differs).1 (serves .null)
  have second := (readFrom_fill_iff plain differs).1 (serves (.bool true))
  cases first.unique second

/-- The property has the value that is put into the slot. -/
theorem Serves.gives_iff (serves : slot.Serves name) (present : value ≠ .null) :
    Gives (slot.fill value) name found ↔ found = value := by
  rw [Gives, serves.readFrom_iff]
  constructor
  · intro holds
    exact holds.1
  · intro same
    exact ⟨same, same ▸ present⟩

theorem Serves.lacks_null (serves : slot.Serves name) : Lacks (slot.fill .null) name := by
  intro value gives
  exact gives.2 (serves.readFrom_iff.1 gives.1)

variable {α : Type} {form : α → Json → Prop} {result : Option α}

theorem Serves.requires_iff {shape : Json → Prop} (serves : slot.Serves name)
    (present : value ≠ .null) : Requires (slot.fill value) name shape ↔ shape value := by
  simp only [Requires, serves.gives_iff present, exists_eq_left]

theorem Serves.holds_iff (serves : slot.Serves name) (present : value ≠ .null) :
    Holds (slot.fill value) name form result ↔ ∃ part, result = some part ∧ form part value := by
  cases result with
  | none =>
      have given := (serves.gives_iff present).2 rfl
      constructor
      · intro lacks
        exact (lacks value given).elim
      · intro holds
        rcases holds with ⟨_, impossible, _⟩
        cases impossible
  | some part =>
      rw [Holds, serves.requires_iff present]
      constructor
      · intro formed
        exact ⟨part, rfl, formed⟩
      · intro holds
        rcases holds with ⟨_, same, formed⟩
        cases same
        exact formed

end Slot

/-! ## Other properties -/

namespace AlikeBut

theorem refl (name : String) (members : Members) : AlikeBut name members members where
  gives _ _ := rfl
  named _ := Iff.rfl

theorem symm (alike : AlikeBut name members others) : AlikeBut name others members where
  gives plain differs := (alike.gives plain differs).symm
  named allowed := (alike.named allowed).symm

theorem trans {last : Members} (first : AlikeBut name members others)
    (second : AlikeBut name others last) : AlikeBut name members last where
  gives plain differs := (first.gives plain differs).trans (second.gives plain differs)
  named allowed := (first.named allowed).trans (second.named allowed)

/-- Without the open member, an object agrees with what it is with it but for one property. -/
theorem of_rest (serves : slot.Serves name) (plain : Text.trim name = name) (value : Json) :
    AlikeBut name (slot.fill value) slot.rest where
  gives := by
    intro other otherPlain differs
    have unlike : Text.trim slot.written ≠ other := by
      rw [serves.trim_written plain]
      exact Ne.symm differs
    funext found
    rw [Gives, Gives, Slot.readFrom_fill_iff otherPlain unlike]
  named := by
    intro allowed among
    rw [← serves.trim_written plain] at among
    simp only [NamedAmong, Slot.mem_fill_iff, forall_eq_or_imp, among, true_and]

/-- Only one property depends on the value of the open member. -/
theorem of_fill (serves : slot.Serves name) (plain : Text.trim name = name) (value found : Json) :
    AlikeBut name (slot.fill value) (slot.fill found) :=
  (of_rest serves plain value).trans (of_rest serves plain found).symm

section

variable (alike : AlikeBut name members others) (plain : Text.trim other = other)
  (differs : other ≠ name)

include alike plain differs

theorem requires_iff {shape : Json → Prop} :
    Requires members other shape ↔ Requires others other shape := by
  rw [Requires, Requires, alike.gives plain differs]

theorem lacks_iff : Lacks members other ↔ Lacks others other := by
  rw [Lacks, Lacks, alike.gives plain differs]

theorem holds_iff {α : Type} {form : α → Json → Prop} {result : Option α} :
    Holds members other form result ↔ Holds others other form result := by
  cases result with
  | none => exact alike.lacks_iff plain differs
  | some _ => exact alike.requires_iff plain differs

theorem describesSection_iff {α : Type} {form : String → α → Json → Prop} {map : NameMap α}
    {part : Section} (same : part.name = other) :
    DescribesSection part form map members ↔ DescribesSection part form map others := by
  rw [DescribesSection, DescribesSection, same, alike.lacks_iff plain differs,
    alike.requires_iff plain differs]

theorem describesCount_iff {fallback number : Nat} :
    DescribesCount members other fallback number ↔ DescribesCount others other fallback number := by
  simp only [DescribesCount, alike.holds_iff plain differs]

end

end AlikeBut

/-! ## Sections with an open entry -/

theorem isObject_object_iff {shape : Members → Prop} :
    IsObject shape (.object members) ↔ shape members := by
  simp [IsObject]

namespace Slot

variable {α : Type} {form : String → α → Json → Prop} {map : NameMap α} {result : α}

/-- A section that is read from the open member describes what its entries there do. -/
theorem Serves.describesSection_iff {part : Section} {entries : Members}
    (serves : slot.Serves part.name) :
    DescribesSection part form map (slot.fill (.object entries)) ↔
      DescribesEntries form map entries := by
  have present : Json.object entries ≠ .null := nofun
  have given : ¬ Lacks (slot.fill (.object entries)) part.name := fun lacks =>
    lacks _ ((serves.gives_iff present).2 rfl)
  rw [DescribesSection, serves.requires_iff present, isObject_object_iff]
  simp [given]

theorem unpadded_names (value found : Json) :
    ((slot.fill value).map unpadded).map Prod.fst =
      ((slot.fill found).map unpadded).map Prod.fst := by
  simp [fill, unpadded]

/-- Other entries of a section have other names. -/
theorem trim_ne_of_mem_rest (defines : Defines (slot.fill value)) {entry : String × Json}
    (among : entry ∈ slot.rest) : Text.trim entry.1 ≠ Text.trim slot.written := by
  have distinct := defines.distinct
  rw [(((slot.perm_fill value).map unpadded).map Prod.fst).nodup_iff, List.map_cons,
    List.map_cons, List.nodup_cons] at distinct
  intro same
  apply distinct.1
  simp only [List.map_map, List.mem_map]
  exact ⟨entry, among, same⟩

theorem defines_fill (defines : Defines (slot.fill value)) (found : Json) :
    Defines (slot.fill found) := by
  constructor
  · intro entry among
    rcases mem_fill_iff.1 among with rfl | others
    · exact defines.named (slot.written, value) (mem_fill_iff.2 (.inl rfl))
    · exact defines.named entry (mem_fill_iff.2 (.inr others))
  · rw [unpadded_names found value]
    exact defines.distinct

/-- The open entry describes the value of its name. -/
theorem described_of_fill (describes : DescribesEntries form map (slot.fill value)) :
    ∃ result, map.get? (Text.trim slot.written) = some result ∧
      form (Text.trim slot.written) result value :=
  describes.described (slot.written, value) (mem_fill_iff.2 (.inl rfl))

/-- Another value of the open entry describes another value of its name. -/
theorem describesEntries_insert (describes : DescribesEntries form map (slot.fill value))
    (formed : form (Text.trim slot.written) result found) :
    DescribesEntries form (map.insert (Text.trim slot.written) result) (slot.fill found) := by
  have defines := describes.toDefines
  refine ⟨defines_fill defines found, ?_, ?_⟩
  · intro entry among
    rcases mem_fill_iff.1 among with rfl | others
    · exact ⟨result, by rw [NameMap.get?_insert, if_pos rfl], formed⟩
    · rw [NameMap.get?_insert, if_neg (trim_ne_of_mem_rest defines others)]
      exact describes.described entry (mem_fill_iff.2 (.inr others))
  · intro name other isValue
    rw [NameMap.get?_insert] at isValue
    split at isValue
    next same => exact ⟨(slot.written, found), mem_fill_iff.2 (.inl rfl), same.symm⟩
    next differs =>
      rcases describes.complete name other isValue with ⟨entry, among, rfl⟩
      rcases mem_fill_iff.1 among with rfl | others
      · exact (differs rfl).elim
      · exact ⟨entry, mem_fill_iff.2 (.inr others), rfl⟩

end Slot

end Screenplay.Document
