import Screenplay.Device.Key
import Screenplay.Device.Locator

/-!
# Devices

The ways in which a device is handled: looking for elements, clicking, pressing
keys and carrying out commands.  A device has a time for which look-ups wait, and a
time for the screen to settle after clicks and held keys.
-/

namespace Screenplay

/-- How a device is handled. -/
structure Device where
  findTimeout : Duration := .ofSeconds 5
  settleDelay : Duration := .ofSeconds 1

namespace Device

/-- The locator of a selector. -/
def locator (device : Device) (selector : Selector) : Locator :=
  { selector, timeout := device.findTimeout }

/-- Wait for the first element that a selector means. -/
def find (device : Device) (selector : Selector) : Script (Option Element) :=
  (device.locator selector).first none

/-- Wait for the elements that a selector means. -/
def findAll (device : Device) (selector : Selector) : Script (List Element) :=
  (device.locator selector).all none

/-- Wait for the first such element inside another one. -/
def findWithin (device : Device) (root : Element) (selector : Selector) :
    Script (Option Element) :=
  { device.locator selector with root := some root }.first none

/-- Whether there is such an element now. -/
def hasElement (device : Device) (selector : Selector) : Script Bool :=
  (device.locator selector).exists?

/-- Let the screen settle. -/
def settle (device : Device) : Script Unit :=
  .pause device.settleDelay

/-- Click an element, and let the screen settle. -/
def clickAndWait (device : Device) (element : Element) : Script Unit := do
  Script.perform (.click element)
  device.settle

/-- Hold an element that can be held, and let the screen settle. -/
def longClick (device : Device) (element : Element) : Script Unit :=
  if element.longClickable then do
    Script.perform (.longClick element)
    device.settle
  else
    .fail (.unsupportedOperation
      ("element " ++ element.displayName ++ " is not long clickable"))

/-- Press a key. -/
def pressKey (code : UInt32) : Script Unit :=
  .perform (.pressKey code)

/-- Hold a key by a shell command, and let the screen settle. -/
def longPressKey (device : Device) (code : UInt32) : Script Unit := do
  let _output : String ←
    .perform (.shell ("input keyevent --longpress " ++ toString code.toNat))
  device.settle

/-- Press the power key. -/
def pressPower : Script Unit := pressKey Key.powerCode

/-- Hold the power key. -/
def longPressPower (device : Device) : Script Unit := device.longPressKey Key.powerCode

/-- Press the home key. -/
def pressHome : Script Unit := pressKey Key.homeCode

/-- Press the back key. -/
def pressBack : Script Unit := pressKey Key.backCode

/-- Switch the screen on. -/
def wakeUp : Script Unit := .perform .wakeUp

/-- How long the centre of the screen is held. -/
def longPressMilliseconds : Nat := 5000

/-- The command for a swipe that stays at one point. -/
def holdCommand (point : Int32 × Int32) : String :=
  let (x, y) := (toString point.1.toInt, toString point.2.toInt)
  " ".intercalate
    ["input", "swipe", x, y, x, y, toString longPressMilliseconds]

/-- Hold the centre of the screen by a shell command, and let the screen settle. -/
def longPressScreenCenter (device : Device) : Script Unit := do
  let bounds : Bounds ← .perform .screenBounds
  let _output : String ← .perform (.shell (holdCommand bounds.center))
  device.settle

/-- Carry out a shell command that is not blank. -/
def runShellCommand (command : String) : Script String :=
  if Text.isBlankText command then
    .fail (.invalidValue "shell command is empty")
  else
    .perform (.shell command)

/-- Whether a package, whose name is not blank, is in the foreground. -/
def hasPackageInForeground (package : String) : Script Bool :=
  if Text.isBlankText package then
    .fail (.invalidValue "package name is empty")
  else
    .perform (.isForeground package)

/-- Let a number of seconds pass. -/
def waitSeconds (seconds : Nat) : Script Unit :=
  .pause (.ofSeconds seconds)

/-- A text that changes when anything visible does. -/
def hierarchy : Script String :=
  .perform .dump

end Device

end Screenplay
