import Screenplay.Duration
import Screenplay.RunError
import Screenplay.Scroll

/-!
# Scripts

A script is what is done with a device: a tree of requests, each of which goes on
in a way that depends on the answer.  A request can fail, and it is up to the
script what it makes of a failure; waiting cannot fail.

Scripts do not say what a device does.  That is the part of an engine, which is
given when a script is run.  Two scripts that are equal as trees therefore behave
alike on every device.
-/

namespace Screenplay

/-- What can be asked of a device. -/
inductive Request where
  /-- The first element that a selector means, inside another element if one is
  given, for which the device may wait some time. -/
  | find (selector : Selector) (root : Option Element) (timeout : Option Duration)
  /-- All elements that a selector means. -/
  | findAll (selector : Selector) (root : Option Element) (timeout : Option Duration)
  | click (element : Element)
  | longClick (element : Element)
  /-- A swipe on a container that keeps a margin clear at its edges. -/
  | scroll (container : Element) (direction : Direction) (margin : UInt32)
  /-- Carry out a shell command and return its output. -/
  | shell (command : String)
  | pressKey (code : UInt32)
  | wakeUp
  /-- Whether a package is in the foreground. -/
  | isForeground (package : String)
  | screenBounds
  /-- A text that changes when anything visible does. -/
  | dump
  deriving DecidableEq

/-- What a device answers. -/
@[reducible] def Request.Answer : Request → Type
  | .find _ _ _ => Option Element
  | .findAll _ _ _ => List Element
  | .click _ => Unit
  | .longClick _ => Unit
  | .scroll _ _ _ => Unit
  | .shell _ => String
  | .pressKey _ => Unit
  | .wakeUp => Unit
  | .isForeground _ => Bool
  | .screenBounds => Bounds
  | .dump => String

/-- A tree of requests that ends in a result or in an error. -/
inductive Script (α : Type) where
  | done (result : Except RunError α)
  | ask (request : Request) (next : Except RunError request.Answer → Script α)
  | wait (duration : Duration) (next : Script α)

namespace Script

variable {α β : Type}

/-- Go on with the result of a script, if it has one. -/
def bind (script : Script α) (next : α → Script β) : Script β :=
  match script with
  | .done (.ok result) => next result
  | .done (.error error) => .done (.error error)
  | .ask request continue_ => .ask request fun answer => (continue_ answer).bind next
  | .wait duration rest => .wait duration (rest.bind next)

instance : Monad Script where
  pure result := .done (.ok result)
  bind := bind

theorem bind_pure (script : Script α) : script.bind (fun result => pure result) = script := by
  induction script with
  | done result => cases result <;> rfl
  | ask request next ih =>
      simp only [bind, ih]
  | wait duration rest ih => simp only [bind, ih]

theorem bind_bind {γ : Type} (script : Script α) (first : α → Script β)
    (second : β → Script γ) :
    (script.bind first).bind second = script.bind fun result => (first result).bind second := by
  induction script with
  | done result => cases result <;> rfl
  | ask request next ih => simp only [bind, ih]
  | wait duration rest ih => simp only [bind, ih]

instance : LawfulMonad Script :=
  LawfulMonad.mk' Script bind_pure (fun _ _ => rfl) bind_bind

/-- End with an error. -/
def fail (error : RunError) : Script α :=
  .done (.error error)

/-- Make a request, and end with its error if it fails. -/
def perform (request : Request) : Script request.Answer :=
  .ask request .done

/-- Let some time pass. -/
def pause (duration : Duration) : Script Unit :=
  .wait duration (pure ())

/-- Put the error of a script into another form. -/
def mapError (change : RunError → RunError) : Script α → Script α
  | .done result => .done (result.mapError change)
  | .ask request continue_ => .ask request fun answer => (continue_ answer).mapError change
  | .wait duration rest => .wait duration (rest.mapError change)

/-- A result, or an error of the configuration. -/
def ofConfig (result : Except ConfigError α) : Script α :=
  .done (result.mapError .configuration)

end Script

end Screenplay
