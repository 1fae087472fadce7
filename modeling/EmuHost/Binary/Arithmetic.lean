import EmuHost.Scalar
import EmuHost.Binary.Basic

/-!
# Floating-point arithmetic

The four operations and the comparisons of IEEE 754, rounding to nearest with ties to even. On
finite operands each operation computes the exact result in units and rounds it once
(`Binary.nearest`); the remaining cases are the standard's rules for infinities, zeros and values
that are not numbers.
-/

namespace EmuHost.Binary

variable {f : Format}

/-- The sign bit flipped. -/
def neg : Binary f → Binary f
  | .nan => .nan
  | .infinite negative => .infinite !negative
  | .finite negative n => .finite (!negative) n

/-- A finite value in units, signed. -/
def signedUnits (negative : Bool) (n : Fin f.infinityOrdinal) : Int :=
  if negative then -(f.units n : Int) else f.units n

/-- A sum that vanishes is negative only if both operands are. -/
def add : Binary f → Binary f → Binary f
  | .nan, _ | _, .nan => .nan
  | .infinite s, .infinite t => if s = t then .infinite s else .nan
  | .infinite s, .finite .. => .infinite s
  | .finite .., .infinite t => .infinite t
  | .finite s m, .finite t n =>
    let total := signedUnits s m + signedUnits t n
    if total = 0 then nearest (s && t) 0 1 else nearest (decide (total < 0)) total.natAbs 1

def sub (x y : Binary f) : Binary f := add x (neg y)

/-- Zero times infinity is not a number. -/
def mul : Binary f → Binary f → Binary f
  | .nan, _ | _, .nan => .nan
  | .infinite s, .infinite t => .infinite (s != t)
  | .infinite s, .finite t n => if f.units n = 0 then .nan else .infinite (s != t)
  | .finite s m, .infinite t => if f.units m = 0 then .nan else .infinite (s != t)
  | .finite s m, .finite t n => nearest (s != t) (f.units m * f.units n) f.unitsPerOne

/-- Zero by zero and infinity by infinity are not numbers; anything else by zero is infinite. -/
def div : Binary f → Binary f → Binary f
  | .nan, _ | _, .nan => .nan
  | .infinite _, .infinite _ => .nan
  | .infinite s, .finite t _ => .infinite (s != t)
  | .finite s _, .infinite t => nearest (s != t) 0 1
  | .finite s m, .finite t n =>
    if f.units n = 0 then
      if f.units m = 0 then .nan else .infinite (s != t)
    else nearest (s != t) (f.units m * f.unitsPerOne) (f.units n)

/-- The place of an ordered value on the line, both zeros at 0 and the infinities at the ends. -/
def place? : Binary f → Option Int
  | .nan => none
  | .infinite negative => some (signed negative f.infinityOrdinal)
  | .finite negative n => some (signed negative n)
where
  signed (negative : Bool) (n : Nat) : Int := if negative then -n else n

/-- Compares two places; a value that is not a number compares with nothing. -/
def compareWith (r : Int → Int → Bool) (x y : Binary f) : Bool :=
  match x.place?, y.place? with
  | some a, some b => r a b
  | _, _ => false

def lt (x y : Binary f) : Bool := x.compareWith (· < ·) y

def le (x y : Binary f) : Bool := x.compareWith (· ≤ ·) y

/-- Numeric equality: both zeros are equal and no value that is not a number equals anything. -/
def eq (x y : Binary f) : Bool := x.compareWith (· == ·) y

instance : Scalar (Binary f) where
  add := add
  sub := sub
  mul := mul
  div := div
  ofRat := ofRat
  lt := lt
  le := le

end EmuHost.Binary
