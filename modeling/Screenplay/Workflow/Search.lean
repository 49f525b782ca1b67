import Screenplay.Device.Basic

/-!
# Searching by scrolling

A search scrolls step by step.  Whether a step moved anything is told by comparing
what the screen shows before and after it; a disabled button moves nothing and is
not clicked.  A search makes a limited number of steps in each direction.
-/

namespace Screenplay

/-- A search on a device. -/
structure Search where
  device : Device := {}
  /-- The most steps that are made in one direction. -/
  maxSteps : Nat := 100

/-- The way of a step. -/
inductive Way where
  | forward
  | backward
  deriving DecidableEq, Repr

namespace Search

/-- The container to swipe on, or the first scrollable element inside it. -/
def container (search : Search) (element : Descriptor) (description : String) :
    Script Element := do
  match ← search.device.find element.query with
  | none =>
      .fail (.missingElement
        ("unable to find scroll container " ++ element.display ++ " to " ++ description))
  | some found =>
      if found.scrollable then
        return found
      else
        match ← search.device.findWithin found (.scrollable true) with
        | some inner => return inner
        | none =>
            .fail (.missingElement
              ("scroll container " ++ element.display ++
                " has no scrollable content to " ++ description))

/-- The button for a way. -/
def button (search : Search) (button : Descriptor) (description : String) :
    Script Element := do
  match ← search.device.find button.query with
  | none =>
      .fail (.missingElement
        ("unable to find scroll button " ++ button.display ++ " to " ++ description))
  | some found => return found

/-- Let the screen settle after a step, and compare what it shows. -/
def observe (scroll : Scroll) (before : String) : Script Bool := do
  Device.waitSeconds scroll.waitSeconds.toNat
  let after ← Device.hierarchy
  return before != after

/-- Make one step.  The result says whether anything moved. -/
def step (search : Search) (scroll : Scroll) (way : Way) (description : String) :
    Script Bool := do
  let before ← Device.hierarchy
  match scroll.action with
  | .buttons forward backward =>
      let wanted := match way with
        | .forward => forward
        | .backward => backward
      let found ← search.button wanted description
      if found.enabled then
        Script.perform (.click found)
        observe scroll before
      else
        return false
  | .gesture axis element =>
      let found ← search.container element description
      let direction := match way with
        | .forward => axis.forward
        | .backward => axis.backward
      Script.perform (.scroll found direction scroll.margin)
      observe scroll before

/-- Make steps until one moves nothing, at most as many as said. -/
def stepUntilStill (search : Search) (scroll : Scroll) (way : Way) (description : String) :
    Nat → Script Unit
  | 0 => return ()
  | steps + 1 => do
      if ← search.step scroll way description then
        stepUntilStill search scroll way description steps
      else
        return ()

/-- Scroll back as far as it goes. -/
def toBeginning (search : Search) (scroll : Scroll) (description : String) : Script Unit :=
  search.stepUntilStill scroll .backward description search.maxSteps

/-- Scroll on as far as it goes. -/
def toEnd (search : Search) (scroll : Scroll) (description : String) : Script Unit :=
  search.stepUntilStill scroll .forward description search.maxSteps

/-- Make steps forward, at most as many as said, until the target is found or a step
moves nothing. -/
def findForward (search : Search) (scroll : Scroll) (target : Selector)
    (description : String) : Nat → Script (Option Element)
  | 0 => return none
  | steps + 1 => do
      let moved ← search.step scroll .forward description
      match ← search.device.find target with
      | some found => return some found
      | none =>
          if moved then findForward search scroll target description steps
          else return none

/-- Find a target: on the screen as it is, at the beginning, or on the way from
there to the end. -/
def find (search : Search) (scroll : Scroll) (target : Selector) (description : String) :
    Script (Option Element) := do
  match ← search.device.find target with
  | some found => return some found
  | none => do
      search.toBeginning scroll description
      match ← search.device.find target with
      | some found => return some found
      | none => search.findForward scroll target description search.maxSteps

/-- Whether a target can be found. -/
def exists? (search : Search) (scroll : Scroll) (target : Selector) (description : String) :
    Script Bool := do
  let found ← search.find scroll target description
  return found.isSome

end Search

end Screenplay
