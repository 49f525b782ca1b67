import Screenplay.Config.Error
import Screenplay.Selector.Basic

/-!
# Descriptors

A descriptor is the validated form in which a configuration holds a selector: a
kind, a value and sometimes a package, all without padding.  The package is needed
for a resource, may be given for a class, and is refused for the other kinds.

The query of a descriptor follows from its other parts, and a descriptor carries
the proof of it.  Reading the parts of a descriptor therefore gives it back.
-/

namespace Screenplay

/-- The kind of selector with a name that may be padded. -/
def SelectorKind.ofName (name : String) : Except ConfigError SelectorKind :=
  match SelectorKind.ofName? (Text.trim name) with
  | none => .error (.invalidSelector (.unknownKind (Text.trim name)))
  | some kind => .ok kind

namespace Descriptor

/-- The pattern of a value. -/
def patternOf (kind : SelectorKind) (value : String) : Except ConfigError Pattern :=
  match Pattern.ofSource? value with
  | none => .error (.invalidSelector (.badPattern kind value))
  | some pattern => .ok pattern

/-- The query that a kind, a value and a package without padding stand for. -/
def queryOf (kind : SelectorKind) (value : String) (package : Option String) :
    Except ConfigError Selector :=
  if value.isEmpty then
    .error (.invalidSelector (.blankValue kind))
  else
    match kind, package with
    | .resourceId, none => .error (.invalidSelector (.packageRequired value))
    | .resourceId, some package => .ok (.resource package value)
    | .className, package => .ok (.className package value)
    | kind, some package => .error (.invalidSelector (.packageRefused kind value package))
    | .textContains, none => .ok (.textContains value)
    | .text, none => (patternOf .text value).map .text
    | .description, none => (patternOf .description value).map .description

/-- A package without padding; a blank one counts as none. -/
def trimPackage (package : Option String) : Option String :=
  (package.map Text.trim).filter (!·.isEmpty)

@[simp] theorem trimPackage_none : trimPackage none = none := rfl

@[simp] theorem trimPackage_trimPackage (package : Option String) :
    trimPackage (trimPackage package) = trimPackage package := by
  cases package with
  | none => rfl
  | some package =>
      by_cases blank : (Text.trim package).isEmpty <;> simp [trimPackage, Option.filter, blank]

end Descriptor

/-- A validated description of an element. -/
structure Descriptor where
  kind : SelectorKind
  value : String
  package : Option String
  query : Selector
  value_trimmed : Text.trim value = value
  package_trimmed : Descriptor.trimPackage package = package
  denotes : Descriptor.queryOf kind value package = .ok query

namespace Descriptor

/-- The descriptor with the given parts, which may be padded. -/
def ofParts (kind : SelectorKind) (value : String) (package : Option String) :
    Except ConfigError Descriptor :=
  match denotes : queryOf kind (Text.trim value) (trimPackage package) with
  | .error error => .error error
  | .ok query =>
      .ok ⟨kind, Text.trim value, trimPackage package, query, Text.trim_trim value,
        trimPackage_trimPackage package, denotes⟩

theorem ext_parts {left right : Descriptor} (sameKind : left.kind = right.kind)
    (sameValue : left.value = right.value) (samePackage : left.package = right.package) :
    left = right := by
  obtain ⟨kind, value, package, query, _, _, denotes⟩ := left
  obtain ⟨otherKind, otherValue, otherPackage, otherQuery, _, _, otherDenotes⟩ := right
  subst sameKind sameValue samePackage
  have equal := denotes.symm.trans otherDenotes
  cases equal
  rfl

instance : DecidableEq Descriptor := fun left right =>
  if same : left.kind = right.kind ∧ left.value = right.value ∧
      left.package = right.package then
    isTrue (ext_parts same.1 same.2.1 same.2.2)
  else
    isFalse fun equal => same (equal ▸ ⟨rfl, rfl, rfl⟩)

/-- The descriptor as it stands in messages. -/
def display (descriptor : Descriptor) : String :=
  descriptor.query.display

/-- The descriptor in the form of documents. -/
def toJson (descriptor : Descriptor) : Json :=
  .object <|
    [("TYPE", .text descriptor.kind.name), ("VALUE", .text descriptor.value)] ++
      Element.optionalMember "PACKAGE" descriptor.package

end Descriptor

end Screenplay
