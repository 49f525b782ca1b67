/-!
# Durations

Spans of time in whole milliseconds, without a bound.  A clock counts nanoseconds, in 64
bits of seconds and a fraction.  Nothing that fine is needed here: each span is given as a
number of seconds or of milliseconds, is passed on as it is and is never added to another,
and the seconds that are read from a text are refused unless they fit 64 bits.
-/

namespace Screenplay

/-- A span of time. -/
structure Duration where
  milliseconds : Nat
  deriving DecidableEq, Repr

namespace Duration

/-- A number of seconds. -/
def ofSeconds (seconds : Nat) : Duration :=
  ⟨1000 * seconds⟩

/-- Seconds with three decimal places. -/
def display (duration : Duration) : String :=
  let fraction := Nat.toDigits 10 (duration.milliseconds % 1000)
  toString (duration.milliseconds / 1000) ++ "." ++
    String.ofList (List.replicate (3 - fraction.length) '0' ++ fraction)

end Duration

end Screenplay
