import Screenplay.Script.Basic

/-!
# Locators

A locator looks for the elements that one selector means, on the whole screen or
inside another element.
-/

namespace Screenplay

/-- A way to look for elements. -/
structure Locator where
  selector : Selector
  /-- How long to wait for an element where nothing else is said. -/
  timeout : Duration := .ofSeconds 5
  root : Option Element := none

namespace Locator

/-- The first element, for which the device may wait. -/
def first (locator : Locator) (timeout : Option Duration) : Script (Option Element) :=
  .perform (.find locator.selector locator.root (some (timeout.getD locator.timeout)))

/-- All elements, for which the device may wait. -/
def all (locator : Locator) (timeout : Option Duration) : Script (List Element) :=
  .perform (.findAll locator.selector locator.root (some (timeout.getD locator.timeout)))

/-- Whether there is an element now. -/
def exists? (locator : Locator) : Script Bool := do
  let found : Option Element ← .perform (.find locator.selector locator.root none)
  return found.isSome

end Locator

end Screenplay
