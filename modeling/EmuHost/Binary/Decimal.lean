import EmuHost.Binary.Basic

/-!
# Shortest decimals

The decimal text of a floating-point value: the fewest digits that read back as the same value, of
those the nearest to it and of two equally near the larger, written positionally. The exact decimal
expansion of the value is known (a unit is a power of two, so a power of five over a power of ten);
for each digit count the two neighbours of the value on that decimal grid are read back, and the
first grid with a hit wins.
-/

namespace EmuHost

/-- A positive decimal number `digits * 10 ^ exponent`. -/
structure Decimal where
  digits : Nat
  exponent : Int
  deriving DecidableEq

namespace Decimal

/-- Drops the zeros at the end of the digits, of which there are at most `fuel`. -/
def trim : (fuel : Nat) → Decimal → Decimal
  | 0, d => d
  | fuel + 1, d =>
    if d.digits ≠ 0 ∧ d.digits % 10 = 0 then trim fuel ⟨d.digits / 10, d.exponent + 1⟩ else d

/-- Positional notation, without a point for whole numbers. -/
def positional (d : Decimal) : String :=
  let digits := Nat.toDigits 10 d.digits
  if 0 ≤ d.exponent then
    String.ofList (digits ++ List.replicate d.exponent.toNat '0')
  else
    -- zeros in front make up for digits that are missing before the point
    let places := d.exponent.natAbs
    let padded := List.replicate (places + 1 - digits.length) '0' ++ digits
    let whole := padded.length - places
    String.ofList (padded.take whole ++ '.' :: padded.drop whole)

end Decimal

namespace Format

variable (f : Format)

/-- The decimal neighbour of the value `n` that has `count` digits and reads back as `n`, given the
expansion `exact * 10 ^ -scale` of the value with `length` digits. Of two the nearer is taken, and
the larger of two equally near. -/
def decimalOn? (n exact length count : Nat) : Option Decimal :=
  let step := Nat.pow 10 (length - count)
  let low := exact / step
  -- digits on the grid are this many units over a power of five
  let readsBack (digits : Nat) : Bool := f.nearestOrdinal (digits * step) (Nat.pow 5 f.scale) == n
  -- half way between the two the larger one is tried first
  let (preferred, other) :=
    if 2 * (exact % step) < step then (low, low + 1) else (low + 1, low)
  let exponent : Int := ((length - count : Nat) : Int) - f.scale
  if readsBack preferred then some ⟨preferred, exponent⟩
  else if readsBack other then some ⟨other, exponent⟩
  else none

/-- The shortest decimal that reads back as the `n`-th positive value. -/
def shortest (n : Nat) : Decimal :=
  let exact := f.units n * Nat.pow 5 f.scale
  let length := (Nat.toDigits 10 exact).length
  -- with all its digits a decimal reads back, so something is always found
  let found := (List.range length).findSome? fun k => f.decimalOn? n exact length (k + 1)
  (found.getD ⟨exact, -f.scale⟩).trim length

end Format

namespace Binary

variable {f : Format}

/-- The digits of the magnitude of a finite value. -/
def magnitudeText (n : Nat) : String :=
  if f.units n = 0 then "0" else (f.shortest n).positional

/-- How a value is written in messages: no exponent and no point for whole values. -/
def text : Binary f → String
  | .nan => "NaN"
  | .infinite negative => sign negative ++ "inf"
  | .finite negative n => sign negative ++ magnitudeText (f := f) n
where
  sign (negative : Bool) : String := if negative then "-" else ""

end Binary

end EmuHost
