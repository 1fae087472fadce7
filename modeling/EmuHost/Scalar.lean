/-!
# Scalars

The number operations that the touch mapping and the frame statistics are written in. Each formula
is stated once over this class and read in two ways: with one rounding per operation (binary
floating point, `EmuHost.Binary`) or exactly (`Rat`).
-/

namespace EmuHost

/-- Numbers with the four operations, comparisons that answer `false` on unordered operands, and
the best representation of a rational constant. -/
class Scalar (α : Type) extends Add α, Sub α, Mul α, Div α where
  ofRat : Rat → α
  lt : α → α → Bool
  le : α → α → Bool

namespace Scalar

variable {α : Type} [Scalar α]

/-- A whole-number constant. -/
def ofNat (n : Nat) : α := ofRat (n : Rat)

end Scalar

/-- The exact reading: every rational is represented and no operation rounds. -/
instance : Scalar Rat where
  ofRat q := q
  lt a b := decide (a < b)
  le a b := decide (a ≤ b)

end EmuHost
