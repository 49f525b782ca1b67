import Screenplay.Element
import Screenplay.Proofs.Document.Rearranged
import Screenplay.Proofs.Json.Written

/-!
# The parts of an object

What is kept as an object has parts with different names.  Its members may be written in any
order, and so may the members of what they hold; a part that is `null` may be left out.  All
the same every part is found again in the tree of the document.

Each reader of a part gets one lemma, about the trees that stand for what it reads.
-/

namespace Screenplay.Json

open Document (exists_of_rearranged_object)

/-! ## Objects with given parts -/

/-- The members that are left when some that are `null` have been left out. -/
inductive Abridged : List (String × Json) → List (String × Json) → Prop where
  | nil : Abridged [] []
  | keep (member : String × Json) {members kept : List (String × Json)}
      (rest : Abridged members kept) : Abridged (member :: members) (member :: kept)
  | skip (name : String) {members kept : List (String × Json)}
      (rest : Abridged members kept) : Abridged ((name, .null) :: members) kept

/-- An object with the given parts, of which those that are `null` may be missing.  The order
of members does not matter, nor does it inside the parts. -/
def HasParts (value : Json) (parts : List (String × Json)) : Prop :=
  ∃ members, Abridged parts members ∧ Rearranged (.object members) value

namespace Abridged

variable {members kept : List (String × Json)}

theorem refl (members : List (String × Json)) : Abridged members members := by
  induction members with
  | nil => exact .nil
  | cons member _ ih => exact .keep member ih

theorem sublist (abridged : Abridged members kept) : kept.Sublist members := by
  induction abridged with
  | nil => exact .slnil
  | keep member _ ih => exact ih.cons_cons member
  | skip name _ ih => exact ih.cons _

/-- A member that has been left out is `null`, and there is no other one with its name. -/
theorem mem_or_null (abridged : Abridged members kept) (distinct : (members.map Prod.fst).Nodup)
    {member : String × Json} (among : member ∈ members) :
    member ∈ kept ∨ member.2 = .null ∧ member.1 ∉ kept.map Prod.fst := by
  induction abridged with
  | nil => cases among
  | @keep first members kept _ ih =>
      rw [List.map_cons, List.nodup_cons] at distinct
      rcases List.mem_cons.1 among with rfl | among
      · exact .inl List.mem_cons_self
      · refine (ih distinct.2 among).imp (List.mem_cons_of_mem _) fun ⟨isNull, absent⟩ => ?_
        refine ⟨isNull, fun named => (List.mem_cons.1 named).elim (fun same => ?_) absent⟩
        exact distinct.1 (same ▸ List.mem_map_of_mem among)
  | @skip name members kept rest ih =>
      rw [List.map_cons, List.nodup_cons] at distinct
      rcases List.mem_cons.1 among with rfl | among
      · exact .inr ⟨rfl, fun named => distinct.1 ((rest.sublist.map Prod.fst).subset named)⟩
      · exact ih distinct.2 among

end Abridged

/-! ## No doubles -/

/-- Where there is no double, there is still none in another order. -/
theorem Whole.of_rearranged {value other : Json} (whole : Whole value)
    (rearranged : Rearranged value other) : Whole other := by
  induction whole generalizing other with
  | null => cases rearranged; exact .null
  | bool value => cases rearranged; exact .bool value
  | number isInteger => cases rearranged; exact .number isInteger
  | text value => cases rearranged; exact .text value
  | @array items each ih =>
      cases rearranged with
      | same => exact .array each
      | array related =>
          refine .array fun other among => ?_
          obtain ⟨item, isItem, rearranged⟩ :=
            exists_of_forall₂_of_mem (List.Forall₂.flip (R := flip Rearranged) related) among
          exact ih item isItem rearranged
  | @object members each ih =>
      cases rearranged with
      | same => exact .object each
      | object names values =>
          refine .object fun (name, other) among => ?_
          obtain ⟨⟨_, value⟩, isMember, rfl⟩ :=
            List.mem_map.1 (names.mem_iff.1 (List.mem_map_of_mem among))
          exact ih _ isMember (values _ value other isMember among)

theorem HasParts.whole {value : Json} {parts : List (String × Json)}
    (hasParts : value.HasParts parts) (each : ∀ part ∈ parts, Whole part.2) : Whole value := by
  obtain ⟨members, abridged, rearranged⟩ := hasParts
  exact Whole.of_rearranged
    (.object fun member among => each member (abridged.sublist.subset among)) rearranged

/-! ## Values of parts -/

/-- A text, or `null` if it is missing. -/
def ofOptionalText (text : Option String) : Json :=
  text.elim .null .text

theorem Whole.ofOptionalText (text : Option String) : Whole (.ofOptionalText text) := by
  cases text with
  | none => exact .null
  | some text => exact .text text

/-- An integer of 32 bits is kept as an integer of 64 bits. -/
theorem exists_number_of_int32 (value : Int32) : ∃ number,
    Json.ofInt value.toInt = .number number ∧ number.IsInteger ∧
      Tree.integerOf? number = some value.toInt := by
  have lowest := Int32.le_toInt value
  have highest := Int32.toInt_lt value
  have kept : (Int64.ofInt value.toInt).toInt = value.toInt :=
    Int64.toInt_ofInt_of_le (by omega) (by omega)
  rw [Json.ofInt]
  split
  next below => exact ⟨_, rfl, .negative _ below.2, by rw [Tree.integerOf?, kept]⟩
  next notBelow =>
    have nonnegative : 0 ≤ value.toInt := by
      rw [Int64.lt_iff_toInt_lt, kept, Int64.toInt_zero] at notBelow
      omega
    refine ⟨_, rfl, .natural _, ?_⟩
    have small : value.toInt.toNat < UInt64.size := by
      change value.toInt.toNat < 18446744073709551616
      omega
    rw [Tree.integerOf?, UInt64.toNat_ofNat_of_lt' small, Int.toNat_of_nonneg nonnegative]

theorem Whole.ofInt (value : Int32) : Whole (.ofInt value.toInt) := by
  obtain ⟨number, isNumber, isInteger, -⟩ := exists_number_of_int32 value
  exact isNumber ▸ .number isInteger

/-! ## Finding parts -/

namespace Tree

/-- A tree means a value but for the order of members. -/
def StandsFor (tree : Tree) (value : Json) : Prop :=
  ∃ other, Rearranged value other ∧ tree.Means other

variable {tree : Tree}

/-- Names that decode are kept together with the trees of their values. -/
theorem exists_decodeNames? {written : List (List Piece × Tree)} {members : List (String × Json)}
    (names : List.Forall₂ (fun pieces name => decodeText? pieces = some name)
      (written.map Prod.fst) (members.map Prod.fst))
    (values : List.Forall₂ Means (written.map Prod.snd) (members.map Prod.snd)) :
    ∃ entries, decodeNames? written = some entries ∧
      List.Forall₂ (fun member entry => member.1 = entry.1 ∧ entry.2.Means member.2)
        members entries := by
  induction members generalizing written with
  | nil =>
      cases written with
      | nil => exact ⟨[], rfl, .nil⟩
      | cons => cases names
  | cons member rest ih =>
      cases written with
      | nil => cases names
      | cons first others =>
          obtain ⟨_, tree⟩ := first
          rw [List.map_cons, List.map_cons, List.forall₂_cons] at names values
          obtain ⟨entries, isEntries, each⟩ := ih names.2 values.2
          refine ⟨(member.1, tree) :: entries, ?_, .cons ⟨rfl, values.1⟩ each⟩
          simp [decodeNames?, names.1, isEntries]

theorem filter_eq_nil_of_absent {entries : List (String × Tree)} {name : String}
    (absent : name ∉ entries.map Prod.fst) : entries.filter (·.1 == name) = [] := by
  rw [List.filter_eq_nil_iff]
  intro entry among same
  exact absent (eq_of_beq same ▸ List.mem_map_of_mem among)

theorem member?_eq_null {entries : List (String × Tree)} {name : String}
    (absent : name ∉ entries.map Prod.fst) : member? entries name = some .null := by
  rw [member?, filter_eq_nil_of_absent absent]

theorem member?_eq_some {entries : List (String × Tree)} (distinct : (entries.map Prod.fst).Nodup)
    {name : String} (among : (name, tree) ∈ entries) : member? entries name = some tree := by
  obtain ⟨before, after, rfl⟩ := List.append_of_mem among
  rw [List.map_append, List.map_cons, List.nodup_middle, List.nodup_cons, List.mem_append,
    not_or] at distinct
  rw [member?, List.filter_append, List.filter_cons_of_pos (by simp),
    filter_eq_nil_of_absent distinct.1.1, filter_eq_nil_of_absent distinct.1.2, List.nil_append]

theorem mapM_eq_some {α β : Type} {apply : α → Option β} {items : List α} {results : List β}
    (each : List.Forall₂ (fun item result => apply item = some result) items results) :
    items.mapM apply = some results := by
  induction each with
  | nil => rfl
  | cons first _ ih => simp [first, ih]

/-- The tree of an object has a tree for each of the object's parts. -/
theorem exists_parts? {parts : List (String × Json)} (distinct : (parts.map Prod.fst).Nodup)
    {value : Json} (hasParts : value.HasParts parts) (means : tree.Means value) :
    ∃ trees, tree.parts? (parts.map Prod.fst) = some trees ∧
      List.Forall₂ (fun part tree => StandsFor tree part.2) parts trees := by
  obtain ⟨members, abridged, rearranged⟩ := hasParts
  have distinctKept := (abridged.sublist.map Prod.fst).nodup distinct
  obtain ⟨others, rfl, reorders⟩ := exists_of_rearranged_object distinctKept rearranged
  cases means with
  | object names values =>
      obtain ⟨entries, isEntries, each⟩ := exists_decodeNames? names values
      have sameNames := names_eq_of_forall₂ each fun _ _ holds => holds.1
      have sameNamed : ∀ name, name ∈ entries.map Prod.fst ↔ name ∈ members.map Prod.fst :=
        fun name => sameNames ▸ reorders.names.mem_iff
      have distinctEntries : (entries.map Prod.fst).Nodup :=
        sameNames ▸ reorders.names.nodup_iff.2 distinctKept
      have found : ∀ part ∈ parts, ∃ tree : Tree,
          member? entries part.1 = some tree ∧ StandsFor tree part.2 := by
        rintro ⟨name, part⟩ isPart
        -- A part that was kept is found by its name; one that was left out is read as `null`.
        rcases abridged.mem_or_null distinct isPart with isKept | ⟨isNull, absent⟩
        · have named := reorders.names.mem_iff.2 (List.mem_map_of_mem isKept)
          obtain ⟨⟨_, other⟩, isOther, rfl⟩ := List.mem_map.1 named
          obtain ⟨⟨_, tree⟩, isEntry, rfl, means⟩ := exists_of_forall₂_of_mem each isOther
          exact ⟨tree, member?_eq_some distinctEntries isEntry, other,
            reorders.values _ _ _ isKept isOther, means⟩
        · have missing := member?_eq_null fun named => absent ((sameNamed name).1 named)
          exact ⟨.null, missing, .null, isNull ▸ .same _, .null⟩
      obtain ⟨trees, related⟩ := exists_forall₂_of_forall found
      refine ⟨trees, ?_, related.imp fun _ _ holds => holds.2⟩
      rw [parts?, isEntries, Option.bind_eq_bind, Option.bind_some]
      exact mapM_eq_some (List.forall₂_map_left_iff.2 (related.imp fun _ _ holds => holds.1))

/-! ## Reading parts -/

theorem StandsFor.toText?_eq {text : String} (standsFor : StandsFor tree (.text text)) :
    tree.toText? = some text := by
  obtain ⟨other, rearranged, means⟩ := standsFor
  rw [Document.eq_of_rearranged_text rearranged] at means
  cases means with
  | text decoded => exact decoded

theorem StandsFor.toOptionalText?_eq {text : Option String}
    (standsFor : StandsFor tree (ofOptionalText text)) : tree.toOptionalText? = some text := by
  cases text with
  | none =>
      obtain ⟨other, rearranged, means⟩ := standsFor
      cases rearranged
      cases means
      rfl
  | some text =>
      have isText : tree.toText? = some text := standsFor.toText?_eq
      rw [toOptionalText?, isText, Option.map_some]
      rintro rfl
      cases isText

theorem StandsFor.toBool?_eq {value : Bool} (standsFor : StandsFor tree (.bool value)) :
    tree.toBool? = some value := by
  obtain ⟨other, rearranged, means⟩ := standsFor
  cases rearranged
  cases means
  rfl

theorem StandsFor.toInt32?_eq {value : Int32}
    (standsFor : StandsFor tree (.ofInt value.toInt)) : tree.toInt32? = some value := by
  obtain ⟨other, rearranged, means⟩ := standsFor
  obtain ⟨number, isNumber, -, isValue⟩ := exists_number_of_int32 value
  rw [isNumber] at rearranged
  rw [Document.eq_of_rearranged_number rearranged] at means
  cases means with
  | number held =>
      have within : Int32.minValue.toInt ≤ value.toInt ∧ value.toInt ≤ Int32.maxValue.toInt :=
        ⟨Int32.minValue_le_toInt value, Int32.toInt_le value⟩
      simp only [toInt32?, held, isValue, Option.bind_eq_bind, Option.bind_some, if_pos within,
        Int32.ofInt_toInt]

end Tree

end Screenplay.Json
