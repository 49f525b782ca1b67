import Screenplay.RunError
import Screenplay.Text.Numeral

/-!
# Keys

A task names a key by a code or by one of a few names.  A code is an integer that
fits 32 bits without a sign; integers of up to 64 bits that do not are refused as
codes, and everything else is taken for a name.
-/

namespace Screenplay

/-- A key of a device. -/
inductive Key where
  | code (code : UInt32)
  | power
  | home
  | back
  | screenCenter
  | wakeUp
  deriving DecidableEq, Repr

namespace Key

/-- The name of a key, or its code. -/
def name : Key → String
  | .code value => toString value.toNat
  | .power => "POWER"
  | .home => "HOME"
  | .back => "BACK"
  | .screenCenter => "SCREEN_CENTER"
  | .wakeUp => "WAKE_UP"

/-- The keys that have names. -/
def named : List Key := [.power, .home, .back, .screenCenter, .wakeUp]

/-- The code of the home key. -/
def homeCode : UInt32 := 3

/-- The code of the back key. -/
def backCode : UInt32 := 4

/-- The code of the power key. -/
def powerCode : UInt32 := 26

/-- The key that a text, which may be padded, stands for. -/
def ofText (text : String) : Except RunError Key :=
  let text := Text.trim text
  match Text.readInt? Int64.minValue.toInt Int64.maxValue.toInt text with
  | some number =>
      if 0 ≤ number ∧ number < UInt32.size then
        .ok (.code (UInt32.ofNat number.toNat))
      else
        .error (.invalidValue ("key code " ++ text ++ " is negative or out of range"))
  | none =>
      match named.find? (·.name == text) with
      | some key => .ok key
      | none => .error (.unsupportedOperation ("key " ++ text ++ " is not supported"))

end Key

end Screenplay
