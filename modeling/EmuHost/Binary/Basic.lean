/-!
# Binary floating-point values

Values of an IEEE 754 binary interchange format. A finite value is a sign and an *ordinal*: its
place in the increasing list of non-negative finite values, which is also its bit pattern without
the sign bit. Every finite value is a whole number of *units*, the least positive value of the
format, so arithmetic is exact arithmetic on units followed by one rounding
(`Format.nearestOrdinal`). All values that are not numbers are one value.
-/

namespace EmuHost

/-- A binary interchange format, by the widths of its two stored fields. -/
structure Format where
  fractionBits : Nat
  exponentBits : Nat

namespace Format

/-- Four-byte values. -/
def single : Format := ⟨23, 8⟩

/-- Eight-byte values. -/
def double : Format := ⟨52, 11⟩

variable (f : Format)

/-- The number of values that share an exponent. -/
def binade : Nat := Nat.pow 2 f.fractionBits

/-- The number of finite non-negative values; as a bit pattern this is infinity. -/
def infinityOrdinal : Nat := (Nat.pow 2 f.exponentBits - 1) * f.binade

/-- One is two to this power in units. -/
def scale : Nat := Nat.pow 2 (f.exponentBits - 1) - 2 + f.fractionBits

/-- One in units. -/
def unitsPerOne : Nat := Nat.pow 2 f.scale

/-- The bit pattern of negative zero. -/
def signBit : Nat := Nat.pow 2 (f.exponentBits + f.fractionBits)

/-- The magnitude of the `n`-th non-negative value, in units. Within the first binade and below it
the ordinals are the units; each later binade doubles the step. -/
def units (n : Nat) : Nat :=
  if n < f.binade then n
  else (f.binade + n % f.binade) * Nat.pow 2 (n / f.binade - 1)

end Format

/-- The whole number nearest to `n / d`, a half going to the even neighbour. -/
def divNearest (n d : Nat) : Nat :=
  let q := n / d
  let r := n % d
  -- at the middle the one that is even
  if 2 * r < d then q else if d < 2 * r then q + 1 else q + q % 2

/-- The ordinal of the value nearest to `num / den` units, a half going to the even ordinal. It may
reach or pass `infinityOrdinal`, which is overflow. -/
def Format.nearestOrdinal (f : Format) (num den : Nat) : Nat :=
  -- all bits beyond those of a fraction are rounded off at once
  let shift := (num / den).log2 - f.fractionBits
  shift * f.binade + divNearest num (den * Nat.pow 2 shift)

/-- A value of the format `f`. -/
inductive Binary (f : Format) where
  | nan
  | infinite (negative : Bool)
  | finite (negative : Bool) (ordinal : Fin f.infinityOrdinal)
  deriving DecidableEq

/-- Four-byte values: sizes, ratios, axes and sensor samples. -/
abbrev Binary32 := Binary .single

/-- Eight-byte values: timings. -/
abbrev Binary64 := Binary .double

namespace Binary

variable {f : Format}

/-- The value at a place of the list of non-negative values, infinity past its end. -/
def ofOrdinal (negative : Bool) (n : Nat) : Binary f :=
  if h : n < f.infinityOrdinal then .finite negative ⟨n, h⟩ else .infinite negative

/-- The value nearest to `num / den` units. -/
def nearest (negative : Bool) (num den : Nat) : Binary f :=
  ofOrdinal negative (f.nearestOrdinal num den)

/-- The value nearest to a rational number; zero is positive. -/
def ofRat (q : Rat) : Binary f :=
  nearest (decide (q < 0)) (q.num.natAbs * f.unitsPerOne) q.den

/-- The value nearest to a whole number. -/
def ofInt (n : Int) : Binary f := ofRat n

/-- The value nearest to `± digits * 10 ^ exponent`. Exponents that overflow or vanish in any case
are answered without building the power of ten. -/
def ofDecimal (negative : Bool) (digits : Nat) (exponent : Int) : Binary f :=
  -- the number has this many digits before its point
  let places : Int := (Nat.toDigits 10 digits).length + exponent
  if digits = 0 then ofOrdinal negative 0
  else if places > f.scale + 1 then .infinite negative
  else if places < -(f.scale + 1) then ofOrdinal negative 0
  else if exponent < 0 then
    nearest negative (digits * f.unitsPerOne) (Nat.pow 10 exponent.natAbs)
  else nearest negative (digits * Nat.pow 10 exponent.natAbs * f.unitsPerOne) 1

instance : Inhabited (Binary f) := ⟨ofOrdinal false 0⟩

/-- Neither infinite nor unordered. -/
def isFinite : Binary f → Bool
  | .finite .. => true
  | _ => false

/-- Another format's nearest value. -/
def convert (g : Format) : Binary f → Binary g
  | .nan => .nan
  | .infinite negative => .infinite negative
  | .finite negative n => nearest negative (f.units n * g.unitsPerOne) f.unitsPerOne

/-- The bit pattern: sign, then ordinal. -/
def toBits : Binary f → Nat
  | .nan => f.infinityOrdinal + f.binade / 2
  | .infinite negative => signPattern negative + f.infinityOrdinal
  | .finite negative n => signPattern negative + n
where
  signPattern (negative : Bool) : Nat := if negative then f.signBit else 0

/-- The value of a bit pattern. -/
def ofBits (bits : Nat) : Binary f :=
  let magnitude := bits % f.signBit
  if f.infinityOrdinal < magnitude then .nan
  else ofOrdinal (decide (f.signBit ≤ bits)) magnitude

end Binary

end EmuHost
