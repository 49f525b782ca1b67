import Screenplay.Proofs.Json.Parts

/-!
# Snapshots survive being written

An element that has been written is read again as the same element, whatever its texts contain
and wherever its bounds lie.  It does not matter in which order the members stand, nor whether
a missing attribute is written as `null` or not at all.  Hence no two elements are written as
the same value.
-/

namespace Screenplay

open Json (Abridged Rearranged Whole)

/-- The parts of a rectangle, by name. -/
def Bounds.parts (bounds : Bounds) : List (String × Json) :=
  [("x", .ofInt bounds.x.toInt), ("y", .ofInt bounds.y.toInt),
    ("width", .ofInt bounds.width.toInt), ("height", .ofInt bounds.height.toInt)]

/-- The parts of an element, by name; an attribute that is missing is `null`. -/
def Element.parts (element : Element) : List (String × Json) :=
  [("handle", .text element.handle),
    ("resource_id", .ofOptionalText element.resourceName),
    ("package", .ofOptionalText element.package),
    ("text", .ofOptionalText element.text),
    ("description", .ofOptionalText element.description),
    ("class_name", .ofOptionalText element.className),
    ("bounds", element.bounds.toJson),
    ("enabled", .bool element.enabled),
    ("scrollable", .bool element.scrollable),
    ("clickable", .bool element.clickable),
    ("long_clickable", .bool element.longClickable)]

/-! ## What is written -/

theorem Json.Abridged.optionalMember (name : String) (text : Option String)
    {members kept : List (String × Json)} (rest : Abridged members kept) :
    Abridged ((name, .ofOptionalText text) :: members)
      (Element.optionalMember name text ++ kept) := by
  cases text with
  | none => exact .skip name rest
  | some text => exact .keep _ rest

/-- An element is written as its parts without those that are `null`. -/
theorem Element.hasParts_of_rearranged {element : Element} {value : Json}
    (rearranged : Rearranged element.toJson value) : value.HasParts element.parts := by
  refine ⟨_, ?_, rearranged⟩
  simp only [List.append_assoc, List.singleton_append]
  exact .keep _ (.optionalMember _ _ (.optionalMember _ _ (.optionalMember _ _
    (.optionalMember _ _ (.optionalMember _ _ (.refl _))))))

theorem Bounds.whole_toJson (bounds : Bounds) : Whole bounds.toJson := by
  refine .object ?_
  simp [Whole.ofInt]

theorem Element.whole_of_mem_parts (element : Element) :
    ∀ part ∈ element.parts, Whole part.2 := by
  simp [parts, Whole.text, Whole.bool, Whole.ofOptionalText, Bounds.whole_toJson]

/-! ## What is read -/

theorem Bounds.ofTree?_eq {bounds : Bounds} {tree : Json.Tree}
    (standsFor : tree.StandsFor bounds.toJson) : ofTree? tree = some bounds := by
  obtain ⟨value, rearranged, means⟩ := standsFor
  have distinct : (bounds.parts.map Prod.fst).Nodup := by simp [parts]
  obtain ⟨trees, isParts, each⟩ :=
    Json.Tree.exists_parts? distinct ⟨_, .refl bounds.parts, rearranged⟩ means
  rcases each with _ | ⟨x, _ | ⟨y, _ | ⟨width, _ | ⟨height, _ | _⟩⟩⟩⟩
  change tree.parts? ["x", "y", "width", "height"] = _ at isParts
  simp [ofTree?, isParts, x.toInt32?_eq, y.toInt32?_eq, width.toInt32?_eq, height.toInt32?_eq]

namespace Element

variable {element : Element} {value : Json}

theorem ofTree?_eq (hasParts : value.HasParts element.parts) {tree : Json.Tree}
    (means : tree.Means value) : ofTree? tree = some element := by
  have distinct : (element.parts.map Prod.fst).Nodup := by simp [parts]
  obtain ⟨trees, isParts, each⟩ := Json.Tree.exists_parts? distinct hasParts means
  rcases each with _ | ⟨handle, _ | ⟨resourceName, _ | ⟨package, _ | ⟨text, _ | ⟨description,
    _ | ⟨className, _ | ⟨bounds, _ | ⟨enabled, _ | ⟨scrollable, _ | ⟨clickable,
      _ | ⟨longClickable, _ | _⟩⟩⟩⟩⟩⟩⟩⟩⟩⟩⟩
  change tree.parts? partNames = _ at isParts
  simp [ofTree?, isParts, handle.toText?_eq, resourceName.toOptionalText?_eq,
    package.toOptionalText?_eq, text.toOptionalText?_eq, description.toOptionalText?_eq,
    className.toOptionalText?_eq, Bounds.ofTree?_eq bounds, enabled.toBool?_eq,
    scrollable.toBool?_eq, clickable.toBool?_eq, longClickable.toBool?_eq]

theorem read?_eq_some (hasParts : value.HasParts element.parts) :
    read? value.compact = some element ∧ read? value.pretty = some element := by
  obtain ⟨tree, means, isCompact, isPretty⟩ :=
    (hasParts.whole element.whole_of_mem_parts).exists_tree
  constructor
  · rw [read?, isCompact, Option.bind_eq_bind, Option.bind_some, ofTree?_eq hasParts means]
  · rw [read?, isPretty, Option.bind_eq_bind, Option.bind_some, ofTree?_eq hasParts means]

/-- Whether on one line or over several, with its members in any order, with missing
attributes as `null` or not at all: what was written of an element is read as that element.
Different elements are written as different values, whatever the order of members. -/
theorem survives_writing (element : Element) :
    read? element.toJson.compact = some element ∧
      read? element.toJson.pretty = some element ∧
      (∀ value : Json, value.HasParts element.parts →
        read? value.compact = some element ∧ read? value.pretty = some element) ∧
      ∀ other : Element, other ≠ element → ¬ Rearranged element.toJson other.toJson := by
  obtain ⟨isCompact, isPretty⟩ := read?_eq_some (hasParts_of_rearranged (.same element.toJson))
  refine ⟨isCompact, isPretty, fun value hasParts => read?_eq_some hasParts, ?_⟩
  intro other different rearranged
  -- What is written of the other element has the parts of this one, so it is read as both.
  have asElement := (read?_eq_some (hasParts_of_rearranged rearranged)).1
  have asOther := (read?_eq_some (hasParts_of_rearranged (.same other.toJson))).1
  exact different (Option.some.inj (asOther.symm.trans asElement))

/-- An element that begins outside of the screen, with texts that need escapes. -/
def offScreen : Element :=
  { handle := "\"7\"\n", text := some "", description := some "\x00\\\u00e9",
    bounds := ⟨-2147483648, -1, 2147483647, 0⟩, enabled := false }

/-- Written backwards, with three missing attributes as `null`, the element is read again; and
it is not written as if its empty text were missing. -/
theorem survives_writing_offScreen :
    (Json.object offScreen.parts.reverse).HasParts offScreen.parts ∧
      read? (Json.object offScreen.parts.reverse).compact = some offScreen ∧
      read? (Json.object offScreen.parts.reverse).pretty = some offScreen ∧
      { offScreen with text := none } ≠ offScreen ∧
      ¬ Rearranged offScreen.toJson (toJson { offScreen with text := none }) := by
  have hasParts : (Json.object offScreen.parts.reverse).HasParts offScreen.parts :=
    ⟨_, .refl _, Document.rearranged_of_perm (by decide) (List.reverse_perm _)⟩
  have different : { offScreen with text := none } ≠ offScreen := by decide
  obtain ⟨-, -, reads, differs⟩ := survives_writing offScreen
  exact ⟨hasParts, (reads _ hasParts).1, (reads _ hasParts).2, different, differs _ different⟩

end Element

end Screenplay
