import EmuHost.Binary.Arithmetic
import Mathlib.Algebra.Order.Group.Int

/-!
# The order of floating-point values

Comparisons as comparisons of places on the line. What is no number has no place, and comparing with
it answers `false`, so "not before" is "at or behind" for numbers only.

## Key results

- `Binary.lt_iff`, `Binary.le_iff`, `Binary.eq_iff`: comparisons by places
- `Binary.lt_eq_false_iff`, `Binary.le_eq_false_iff`: numbers are in order one way or the other
- `Binary.place_le`: the places end at those of the infinities
-/

namespace EmuHost.Binary

variable {f : Format} {x y z : Binary f}

/-! ## Comparisons -/

/-- To be less is to stand before the other on the line, where both must be numbers. -/
theorem lt_iff : x.lt y = true ↔ ∃ a b, x.place? = some a ∧ y.place? = some b ∧ a < b := by
  rw [lt, compareWith]
  cases x.place? <;> cases y.place? <;> simp

/-- To be at most the other is to stand no further on the line. -/
theorem le_iff : x.le y = true ↔ ∃ a b, x.place? = some a ∧ y.place? = some b ∧ a ≤ b := by
  rw [le, compareWith]
  cases x.place? <;> cases y.place? <;> simp

/-- To be equal is to share a place, which the two zeros do. -/
theorem eq_iff : x.eq y = true ↔ ∃ a, x.place? = some a ∧ y.place? = some a := by
  rw [eq, compareWith]
  cases x.place? <;> cases y.place? <;> simp
  exact eq_comm

/-! ## Numbers -/

/-- Only what is no number has no place. -/
theorem exists_place (number : x ≠ .nan) : ∃ a, x.place? = some a := by
  cases x with
  | nan => exact absurd rfl number
  | infinite negative => exact ⟨_, rfl⟩
  | finite negative n => exact ⟨_, rfl⟩

/-- Any two numbers are in order. -/
theorem lt_eq_false_iff (left : x ≠ .nan) (right : y ≠ .nan) : x.lt y = false ↔ y.le x = true := by
  obtain ⟨a, placeLeft⟩ := exists_place left
  obtain ⟨b, placeRight⟩ := exists_place right
  rw [lt, le, compareWith, compareWith, placeLeft, placeRight]
  simp

/-- For numbers, not to be at most the other is to be greater. -/
theorem le_eq_false_iff (left : x ≠ .nan) (right : y ≠ .nan) : x.le y = false ↔ y.lt x = true := by
  rw [← Bool.not_eq_true, ← lt_eq_false_iff right left, Bool.not_eq_false]

/-- The strict order implies the other one. -/
theorem le_of_lt (order : x.lt y = true) : x.le y = true := by
  obtain ⟨a, b, placeX, placeY, less⟩ := lt_iff.mp order
  exact le_iff.mpr ⟨a, b, placeX, placeY, less.le⟩

/-- Whatever is compared successfully is a number on both sides. -/
theorem ne_nan_of_le (order : x.le y = true) : x ≠ .nan ∧ y ≠ .nan := by
  obtain ⟨a, b, placeLeft, placeRight, -⟩ := le_iff.mp order
  constructor
  · rintro rfl
    cases placeLeft
  · rintro rfl
    cases placeRight

/-- The two orders compose, with the number in the middle named twice. -/
theorem lt_of_le_of_lt (first : x.le y = true) (second : y.lt z = true) : x.lt z = true := by
  obtain ⟨a, b, placeX, placeY, order⟩ := le_iff.mp first
  obtain ⟨b', c, placeY', placeZ, order'⟩ := lt_iff.mp second
  -- the middle number has only one place
  obtain rfl := Option.some.inj (placeY.symm.trans placeY')
  exact lt_iff.mpr ⟨a, c, placeX, placeZ, order.trans_lt order'⟩

/-! ## Places -/

/-- A sign moves a place to the other side of zero, no further out. -/
theorem signed_bounds (negative : Bool) (n : Nat) :
    -(n : ℤ) ≤ place?.signed negative n ∧ place?.signed negative n ≤ n := by
  cases negative <;> simp only [place?.signed, Bool.false_eq_true, if_false, if_true] <;> omega

/-- Places end at those of the infinities. -/
theorem place_le {p : ℤ} (placed : x.place? = some p) : p ≤ f.infinityOrdinal := by
  cases x with
  | nan => cases placed
  | infinite negative =>
    obtain rfl := Option.some.inj placed
    exact (signed_bounds negative _).2
  | finite negative n =>
    obtain rfl := Option.some.inj placed
    have := (signed_bounds negative n).2
    have := n.isLt
    omega

end EmuHost.Binary
