import Screenplay.Proofs.Text.Quoted
import Screenplay.RunError
import Screenplay.Selector.Descriptor

/-!
# Selectors as they stand in messages

What a selector looks like in a message says what it asks for, and how.  Two selectors may
look the same without being the same, since the parts of a resource or of a class are put
together for the message; but then they are put together in the same way for the comparison
with an element.
-/

namespace Screenplay

namespace Selector

variable {left right : Selector}

/-- The name of the attribute that a selector asks for, as it stands in messages. -/
def label : Selector → String
  | .resource _ _ => "res"
  | .text _ => "text"
  | .textContains _ => "textContains"
  | .description _ => "desc"
  | .className _ _ => "clazz"
  | .scrollable _ => "scrollable"

/-- What a selector asks of the attribute, as it stands in messages. -/
def demand : Selector → String
  | .resource package id => Element.resourceNameOf package id
  | .text pattern => pattern.display
  | .textContains fragment => Text.quote fragment
  | .description pattern => pattern.display
  | .className package name => qualifiedClass package name
  | .scrollable flag => toString flag

theorem toList_display (selector : Selector) :
    selector.display.toList = selector.label.toList ++ '=' :: selector.demand.toList := by
  cases selector <;> simp [display, label, demand, String.toList_append]

theorem equals_not_mem_label (selector : Selector) : '=' ∉ selector.label.toList := by
  cases selector <;> simp [label]

theorem display_eq_iff :
    left.display = right.display ↔ left.label = right.label ∧ left.demand = right.demand := by
  rw [← String.toList_inj, toList_display, toList_display]
  constructor
  · intro same
    obtain ⟨sameLabel, sameDemand⟩ := Text.append_cons_inj_of_not_mem
      left.equals_not_mem_label right.equals_not_mem_label same
    exact ⟨String.toList_inj.1 sameLabel, String.toList_inj.1 sameDemand⟩
  · rintro ⟨sameLabel, sameDemand⟩
    rw [sameLabel, sameDemand]

end Selector

theorem Pattern.display_inj {left right : Pattern} :
    left.display = right.display ↔ left = right := by
  constructor
  · intro same
    rw [Pattern.display, Pattern.display, String.append_left_inj, String.append_right_inj] at same
    exact Pattern.ext_source same
  · intro same
    rw [same]

namespace Selector

variable {left right : Selector}

/-- Selectors that ask for the same thing, though perhaps with other parts. -/
inductive Alike : Selector → Selector → Prop where
  | same (selector : Selector) : Alike selector selector
  | resource {package id otherPackage otherId : String}
      (same : Element.resourceNameOf package id = Element.resourceNameOf otherPackage otherId) :
      Alike (.resource package id) (.resource otherPackage otherId)
  | className {package otherPackage : Option String} {name otherName : String}
      (same : qualifiedClass package name = qualifiedClass otherPackage otherName) :
      Alike (.className package name) (.className otherPackage otherName)

/-- Selectors that look the same in messages ask for the same thing. -/
theorem alike_of_display_eq (same : left.display = right.display) : Alike left right := by
  obtain ⟨sameLabel, sameDemand⟩ := display_eq_iff.1 same
  cases left <;> cases right <;> simp only [label, String.reduceEq] at sameLabel
  case resource.resource => exact .resource sameDemand
  case text.text pattern other =>
    rw [Pattern.display_inj.1 sameDemand]
    exact .same _
  case textContains.textContains fragment other =>
    rw [Text.quote_inj.1 sameDemand]
    exact .same _
  case description.description pattern other =>
    rw [Pattern.display_inj.1 sameDemand]
    exact .same _
  case className.className => exact .className sameDemand
  case scrollable.scrollable flag other =>
    have flagsDiffer : ∀ flag other : Bool, toString flag = toString other → flag = other := by
      decide
    rw [flagsDiffer flag other sameDemand]
    exact .same _

theorem Alike.accepts_eq (alike : Alike left right) (element : Element) :
    left.accepts element = right.accepts element := by
  cases alike with
  | same => rfl
  | resource same | className same => simp only [accepts, same]

end Selector

theorem RunError.message_missingElement (description : String) :
    (RunError.missingElement description).message = "UI element not found: " ++ description :=
  rfl

/-- Selectors that look the same in messages accept the same elements.  So do descriptors
that are reported in the same words, whatever is said around them. -/
theorem Selector.accepts_eq_of_display_eq :
    (∀ left right : Selector, left.display = right.display →
      ∀ element, left.accepts element = right.accepts element) ∧
    ∀ (left right : Descriptor) (before after : String),
      (RunError.missingElement (before ++ left.display ++ after)).message =
        (RunError.missingElement (before ++ right.display ++ after)).message →
      ∀ element, left.query.accepts element = right.query.accepts element := by
  have selectors (left right : Selector) (same : left.display = right.display)
      (element : Element) : left.accepts element = right.accepts element :=
    (alike_of_display_eq same).accepts_eq element
  refine ⟨selectors, ?_⟩
  intro left right before after same
  rw [RunError.message_missingElement, RunError.message_missingElement,
    String.append_right_inj, String.append_left_inj, String.append_right_inj] at same
  exact selectors left.query right.query same

/-- Packages and names that are divided differently may look the same. -/
theorem Selector.accepts_eq_of_display_eq_dividedNames :
    let nested : Descriptor :=
      ⟨.resourceId, "cell", some "app:id/list", .resource "app:id/list" "cell", by decide +kernel,
        by decide +kernel, rfl⟩
    let plain : Descriptor :=
      ⟨.resourceId, "list:id/cell", some "app", .resource "app" "list:id/cell", by decide +kernel,
        by decide +kernel, rfl⟩
    let dotted : Selector := .className (some "android.widget") ".Switch"
    let undotted : Selector := .className (some "android.widget") "Switch"
    (nested.query ≠ plain.query ∧ ∀ element,
      nested.query.accepts element = plain.query.accepts element) ∧
    dotted ≠ undotted ∧ dotted.display = undotted.display ∧
      ∀ element, dotted.accepts element = undotted.accepts element := by
  intro nested plain dotted undotted
  have sameMessage :
      (RunError.missingElement ("" ++ nested.display ++ " is not in foreground")).message =
        (RunError.missingElement ("" ++ plain.display ++ " is not in foreground")).message := by
    decide +kernel
  have sameDisplay : dotted.display = undotted.display := by decide +kernel
  exact ⟨⟨by decide +kernel, accepts_eq_of_display_eq.2 nested plain _ _ sameMessage⟩,
    by decide +kernel, sameDisplay, accepts_eq_of_display_eq.1 dotted undotted sameDisplay⟩

/-- A quote and a backslash are marked, so that a fragment is not taken for another one. -/
example : (Selector.textContains "a\"\\u\x7b41\x7d").display =
    "textContains=\"a\\\"\\\\u\x7b41\x7d\"" := by
  decide +kernel

end Screenplay
