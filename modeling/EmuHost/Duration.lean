import EmuHost.Binary.Arithmetic

/-!
# Durations

Spans of time in whole nanoseconds, and their conversion to and from seconds. Seconds are read over
any `Scalar`; written as a floating-point value they are rounded to the nearest nanosecond.
-/

namespace EmuHost

/-- A span of time. -/
structure Duration where
  seconds : Nat
  nanoseconds : Nat
  deriving DecidableEq, Repr

/-- Why a number of seconds is no duration. -/
inductive DurationError where
  | negative
  | tooBig
  deriving DecidableEq, Repr

def DurationError.message : DurationError → String
  | .negative => "cannot convert float seconds to Duration: value is negative"
  | .tooBig => "cannot convert float seconds to Duration: value is either too big or NaN"

namespace Duration

/-- No time. -/
def zero : Duration := ⟨0, 0⟩

def nanosPerSecond : Nat := 1000000000

/-- The number of seconds that no duration reaches. -/
def secondsLimit : Nat := Nat.pow 2 64

/-- A number of nanoseconds, the whole seconds apart. -/
def ofNanos (n : Nat) : Duration := ⟨n / nanosPerSecond, n % nanosPerSecond⟩

/-- Seconds and further nanoseconds. -/
def ofParts (seconds nanoseconds : Nat) : Duration :=
  ofNanos (seconds * nanosPerSecond + nanoseconds)

/-- The span in seconds. -/
def toSeconds {α : Type} [Scalar α] (d : Duration) : α :=
  Scalar.ofNat d.seconds + Scalar.ofNat d.nanoseconds / Scalar.ofNat nanosPerSecond

/-- The span nearest to a number of seconds, a half nanosecond going to the even neighbour. -/
def ofSeconds : Binary64 → Except DurationError Duration
  | .nan | .infinite false => .error .tooBig
  | .infinite true => .error .negative
  | .finite negative n =>
    let units := Format.double.units n
    if negative && units != 0 then .error .negative
    else
      let nanos := divNearest (units * nanosPerSecond) Format.double.unitsPerOne
      if nanos < secondsLimit * nanosPerSecond then .ok (ofNanos nanos) else .error .tooBig

end Duration

end EmuHost
