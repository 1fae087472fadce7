import EmuHost.Proofs.BinaryOrder
import EmuHost.Proofs.ShortestDecimals
import Mathlib.Algebra.Order.Field.Rat
import Mathlib.Tactic.FieldSimp
import Mathlib.Tactic.Positivity

/-!
# Rounded arithmetic

The operations on floating-point values against exact numbers of units: where both operands are
finite, each operation gives what its exact result rounds to (`Binary.Rounds`). Rounding keeps the
order, so an exact result between two values is rounded to a value between them
(`Binary.Rounds.between`), and a result that is a value is not rounded at all.

Neighbouring values in a binade are one step apart, which is a small part of either of them; the
first section says how small.

## Key results

- `Format.units_lt_part`, `Format.le_units_pred_part`: how far apart values are
- `Binary.Rounds.le`: rounding keeps the order
- `Binary.Rounds.between`, `Binary.Rounds.exact`: when what comes out is finite
- `Binary.add_rounds`, `Binary.sub_rounds`, `Binary.mul_rounds`, `Binary.div_rounds`: the operations
-/

namespace EmuHost

namespace Format

variable {f : Format}

/-! ## Gaps between values -/

/-- A value is a multiple of the step of its binade; the values below the first binade have the step
of the first one. -/
theorem exists_multiple (f : Format) (n : Nat) :
    ∃ shift t, t < 2 * f.binade ∧ (f.binade ≤ t ∨ shift = 0) ∧ n = shift * f.binade + t := by
  rcases f.place n with small | ⟨shift, t, low, high, rfl⟩
  · exact ⟨0, n, by omega, .inr rfl, by omega⟩
  · exact ⟨shift, t, high, .inl low, rfl⟩

/-- The value before lies one step below at most. -/
theorem le_units_pred {shift t m : Nat} (low : f.binade ≤ t ∨ shift = 0) (high : t ≤ 2 * f.binade)
    (succ : m + 1 = shift * f.binade + t) : t * 2 ^ shift ≤ f.units m + 2 ^ shift := by
  have positive := f.binade_pos
  -- above the start of a binade the value before is one step below
  by_cases first : f.binade + 1 ≤ t ∨ shift = 0
  · obtain ⟨u, rfl⟩ : ∃ u, t = u + 1 := by
      rcases first with first | rfl
      · exact ⟨t - 1, by omega⟩
      · exact ⟨m, by omega⟩
    obtain rfl : m = shift * f.binade + u := by omega
    rw [units_multiple (by omega) (by omega), Nat.succ_mul]
  · -- the binade before has a smaller step
    rw [not_or] at first
    obtain ⟨before, rfl⟩ := Nat.exists_eq_succ_of_ne_zero first.2
    obtain rfl : t = f.binade := by omega
    obtain rfl : m = before * f.binade + (2 * f.binade - 1) := by
      rw [Nat.succ_mul] at succ
      omega
    rw [units_multiple (by omega) (by omega), Nat.pow_succ]
    obtain ⟨k, size⟩ := Nat.exists_eq_add_of_le' positive
    rw [size, show 2 * (k + 1) - 1 = 2 * k + 1 by omega]
    nlinarith [Nat.two_pow_pos before]

/-- A smaller value is smaller by one part in `2 * binade` at least. -/
theorem units_lt_part {m n : Nat} (less : m < n) :
    f.units m * (2 * f.binade) + f.units n ≤ f.units n * (2 * f.binade) := by
  obtain ⟨shift, t, high, low, rfl⟩ := f.exists_multiple m
  have next : (t + 1) * 2 ^ shift ≤ f.units n :=
    (le_units_succ low high.le).trans (units_strictMono.monotone less)
  rw [units_multiple low high.le]
  generalize f.units n = larger at next ⊢
  obtain ⟨k, size⟩ : ∃ k, 2 * f.binade = k + 1 := ⟨2 * f.binade - 1, by omega⟩
  have enough : t * (k + 1) ≤ (t + 1) * k := by
    -- there are as many steps in two binades as it takes
    have : t ≤ k := by omega
    nlinarith
  have scaled := Nat.mul_le_mul_right (2 ^ shift) enough
  have most := Nat.mul_le_mul_right k next
  rw [size]
  calc t * 2 ^ shift * (k + 1) + larger = t * (k + 1) * 2 ^ shift + larger := by ring
    _ ≤ (t + 1) * k * 2 ^ shift + larger := by omega
    _ = (t + 1) * 2 ^ shift * k + larger := by ring
    _ ≤ larger * k + larger := by omega
    _ = larger * (k + 1) := by ring

/-- From the second binade on the value before is smaller by one part in `binade` at most. -/
theorem le_units_pred_part {m n : Nat} (succ : m + 1 = n) (past : f.binade ≤ n) :
    f.units n * f.binade ≤ f.units m * f.binade + f.units n := by
  obtain ⟨shift, t, high, low, place⟩ := f.exists_multiple n
  -- the place is past the binade of the smallest values, so it is not one of those
  have started : f.binade ≤ t := by
    rcases low with low | rfl
    · exact low
    · omega
  rw [place] at succ
  have before := le_units_pred low high.le succ
  rw [place, units_multiple low high.le]
  have scaled := Nat.mul_le_mul_right f.binade before
  have part := Nat.mul_le_mul_right (2 ^ shift) started
  rw [Nat.add_mul] at scaled
  rw [Nat.mul_comm f.binade] at part
  omega

/-- Half of an even number of units is a value. -/
theorem exists_half {n : Nat} (even : 2 ∣ f.units n) : ∃ k, 2 * f.units k = f.units n := by
  obtain ⟨shift, t, high, low, rfl⟩ := f.exists_multiple n
  rw [units_multiple low high.le] at even ⊢
  cases shift with
  | zero =>
    rw [Nat.pow_zero, Nat.mul_one] at even ⊢
    obtain ⟨k, rfl⟩ := even
    exact ⟨k, by rw [units_of_le (by omega)]⟩
  | succ shift =>
    obtain ⟨k, same⟩ := f.exists_units high.le shift
    exact ⟨k, by rw [same, Nat.pow_succ]; ring⟩

/-- The values of a binade and all greater ones are multiples of its step. -/
theorem two_pow_dvd_units {shift t n : Nat} (low : f.binade ≤ t ∨ shift = 0)
    (above : shift * f.binade + t ≤ n) : 2 ^ shift ∣ f.units n := by
  rcases low with low | rfl
  · -- the binade of the value is this one or a later one
    obtain ⟨later, u, high, started, rfl⟩ := f.exists_multiple n
    have order : shift ≤ later := by
      by_contra earlier
      have := Nat.mul_le_mul_right f.binade (Nat.succ_le_of_lt (not_le.mp earlier))
      rw [Nat.succ_mul] at this
      omega
    rw [units_multiple started high.le]
    exact Dvd.dvd.mul_left (pow_dvd_pow 2 order) u
  · exact one_dvd _

end Format

namespace Binary

variable {f : Format} {x y z : Binary f} {a b c : ℤ} {q r : ℚ}

/-! ## Values and rounding -/

/-- A finite value is a number of units. -/
def HasUnits (x : Binary f) (a : ℤ) : Prop :=
  ∃ negative n, x = .finite negative n ∧ signedUnits negative n = a

/-- Whether a sign is the one that a number is written with. Zero is written with either. -/
structure HasSign (q : ℚ) (negative : Bool) : Prop where
  below : q < 0 → negative = true
  above : 0 < q → negative = false

/-- A value is what a number of units rounds to. -/
def Rounds (x : Binary f) (q : ℚ) : Prop :=
  ∃ negative n, x = ofOrdinal negative n ∧ f.IsNearest |q| n ∧ HasSign q negative

/-- A place in front of infinity is a finite value. -/
theorem ofOrdinal_of_lt {negative : Bool} {n : Nat} (inside : n < f.infinityOrdinal) :
    ofOrdinal negative n = .finite negative ⟨n, inside⟩ := dif_pos inside

/-- The sign does not matter to the size. -/
theorem abs_signedUnits (negative : Bool) (n : Fin f.infinityOrdinal) :
    |(signedUnits negative n : ℚ)| = f.units n := by
  cases negative
  · simp [signedUnits]
  · simp [signedUnits]

/-- Units are signed like their value. -/
theorem hasSign_signedUnits (negative : Bool) (n : Fin f.infinityOrdinal) :
    HasSign (signedUnits negative n) negative := by
  have magnitude : (0 : ℚ) ≤ f.units n := Nat.cast_nonneg _
  -- the size is not negative, so the sign is up to the mark alone
  cases negative
  · refine ⟨fun below => ?_, fun _ => rfl⟩
    simp only [signedUnits, Bool.false_eq_true, if_false, Int.cast_natCast] at below
    linarith
  · refine ⟨fun _ => rfl, fun above => ?_⟩
    simp only [signedUnits, if_true, Int.cast_neg, Int.cast_natCast] at above
    linarith

namespace HasSign

variable {s t : Bool}

/-- The sign of a product, or of a quotient. -/
theorem mul (left : HasSign q s) (right : HasSign r t) : HasSign (q * r) (s != t) := by
  constructor
  -- a product is negative if exactly one of its factors is
  · intro less
    rcases mul_neg_iff.mp less with ⟨more, less⟩ | ⟨less, more⟩
    · rw [left.above more, right.below less]
      rfl
    · rw [left.below less, right.above more]
      rfl
  · intro more
    rcases mul_pos_iff.mp more with ⟨more, also⟩ | ⟨less, also⟩
    · rw [left.above more, right.above also]
      rfl
    · rw [left.below less, right.below also]
      rfl

/-- A reciprocal keeps the sign. -/
theorem inv (sign : HasSign q s) : HasSign q⁻¹ s :=
  ⟨fun less => sign.below (inv_lt_zero.mp less), fun more => sign.above (inv_pos.mp more)⟩

/-- So does scaling. -/
theorem scale (sign : HasSign q s) (positive : 0 < r) : HasSign (q * r) s := by
  constructor
  · intro less
    exact sign.below (neg_of_mul_neg_left less positive.le)
  · intro more
    exact sign.above (pos_of_mul_pos_left more positive.le)

/-- A number has the sign that it is tested for. -/
theorem self (q : ℚ) : HasSign q (decide (q < 0)) :=
  ⟨fun less => decide_eq_true less, fun more => decide_eq_false (not_lt.mpr more.le)⟩

end HasSign

/-- A value rounds to itself. -/
theorem HasUnits.rounds (value : x.HasUnits a) : x.Rounds a := by
  obtain ⟨negative, n, rfl, rfl⟩ := value
  refine ⟨negative, n, (ofOrdinal_of_lt n.isLt).symm, ?_, hasSign_signedUnits negative n⟩
  rw [abs_signedUnits]
  exact Format.isNearest_units n

/-- A value that is not negative has the units of its place. -/
theorem hasUnits_finite (n : Fin f.infinityOrdinal) :
    (finite (f := f) false n).HasUnits (f.units n) := ⟨false, n, rfl, rfl⟩

/-- The ordinal of a value that is not negative. -/
theorem HasUnits.exists_ordinal (value : x.HasUnits a) (nonneg : 0 ≤ a) :
    ∃ n : Fin f.infinityOrdinal, a = f.units n := by
  obtain ⟨negative, n, -, rfl⟩ := value
  refine ⟨n, ?_⟩
  cases negative
  · rfl
  · simp only [signedUnits, if_true] at nonneg ⊢
    omega

/-- Only the first place is nearest to zero. -/
theorem ordinal_eq_zero {n : Nat} (near : f.IsNearest 0 n) : n = 0 := by
  have zero := f.isNearest_units 0
  rw [Format.units_zero, Nat.cast_zero] at zero
  exact near.unique zero

/-- Places end at infinity. -/
theorem place_ofOrdinal (negative : Bool) (n : Nat) : (ofOrdinal (f := f) negative n).place? =
    some (place?.signed negative (Min.min n f.infinityOrdinal)) := by
  unfold ofOrdinal
  split
  · rename_i inside
    rw [Nat.min_eq_left inside.le]
    rfl
  · rename_i outside
    rw [Nat.min_eq_right (Nat.not_lt.mp outside)]
    rfl

/-- The place of what a number rounds to, on the side of zero that the number is on. -/
theorem Rounds.place (rounds : x.Rounds q) : ∃ n, f.IsNearest |q| n ∧
    x.place? = some (place?.signed (decide (q < 0)) (Min.min n f.infinityOrdinal)) := by
  obtain ⟨negative, n, rfl, near, sign⟩ := rounds
  refine ⟨n, near, ?_⟩
  rw [place_ofOrdinal]
  rcases lt_trichotomy q 0 with less | rfl | more
  · rw [sign.below less, decide_eq_true less]
  · -- both zeros have one place
    rw [abs_zero] at near
    obtain rfl := ordinal_eq_zero near
    cases negative <;> simp [place?.signed]
  · rw [sign.above more, decide_eq_false (not_lt.mpr more.le)]

/-- Rounding keeps the order. -/
theorem Rounds.le (left : x.Rounds q) (right : y.Rounds r) (order : q ≤ r) : x.le y = true := by
  obtain ⟨m, nearLeft, placeLeft⟩ := left.place
  obtain ⟨n, nearRight, placeRight⟩ := right.place
  refine le_iff.mpr ⟨_, _, placeLeft, placeRight, ?_⟩
  unfold place?.signed
  -- by the signs of the two numbers, where those of the values follow
  rcases lt_or_ge q 0 with less | more
  · rw [decide_eq_true less]
    rcases lt_or_ge r 0 with also | past
    · -- on the negative side, magnitudes are in the opposite order
      rw [abs_of_neg less] at nearLeft
      rw [abs_of_neg also] at nearRight
      rw [decide_eq_true also]
      have := min_le_min_right f.infinityOrdinal (nearRight.le nearLeft (by linarith))
      simp only [if_true]
      omega
    · rw [decide_eq_false (not_lt.mpr past)]
      simp only [if_true, Bool.false_eq_true, if_false]
      omega
  · rw [decide_eq_false (not_lt.mpr more), decide_eq_false (not_lt.mpr (more.trans order))]
    rw [abs_of_nonneg more] at nearLeft
    rw [abs_of_nonneg (more.trans order)] at nearRight
    have := min_le_min_right f.infinityOrdinal (nearLeft.le nearRight order)
    simp only [Bool.false_eq_true, if_false]
    omega

/-! ## The order of values -/

/-- What has units is a number. -/
theorem HasUnits.ne_nan (value : x.HasUnits a) : x ≠ .nan := by
  obtain ⟨negative, n, rfl, -⟩ := value
  nofun

/-- And so is what a number is rounded to. -/
theorem Rounds.ne_nan (rounds : x.Rounds q) : x ≠ .nan := by
  obtain ⟨n, -, placed⟩ := rounds.place
  rintro rfl
  cases placed

/-- A place belongs to one number of units. -/
theorem HasUnits.eq_of_place (left : x.HasUnits a) (right : y.HasUnits b)
    (same : x.place? = y.place?) : a = b := by
  obtain ⟨s, m, rfl, rfl⟩ := left
  obtain ⟨t, n, rfl, rfl⟩ := right
  have places : place?.signed s m = place?.signed t n := Option.some.inj same
  unfold place?.signed at places
  -- only the two zeros have a place in common with another sign
  cases s <;> cases t <;>
    simp only [Bool.false_eq_true, if_false, if_true] at places <;>
    simp only [signedUnits, Bool.false_eq_true, if_false, if_true]
  · rw [Int.ofNat.inj places]
  · have left : (m : Nat) = 0 := by omega
    have right : (n : Nat) = 0 := by omega
    rw [left, right, Format.units_zero]
    rfl
  · have left : (m : Nat) = 0 := by omega
    have right : (n : Nat) = 0 := by omega
    rw [left, right, Format.units_zero]
    rfl
  · have same : (m : Nat) = n := by omega
    rw [same]

/-- Finite values are compared as numbers of units. -/
theorem HasUnits.le_iff (left : x.HasUnits a) (right : y.HasUnits b) :
    x.le y = true ↔ a ≤ b := by
  constructor
  -- if it were above, the two would be in order both ways, and so have one place
  · intro order
    by_contra above
    have back := right.rounds.le left.rounds (Int.cast_le.mpr (not_le.mp above).le)
    obtain ⟨p, p', placeX, placeY, order⟩ := Binary.le_iff.mp order
    obtain ⟨o, o', placeY', placeX', back⟩ := Binary.le_iff.mp back
    have sameX := Option.some.inj (placeX.symm.trans placeX')
    have sameY := Option.some.inj (placeY.symm.trans placeY')
    have same : p = p' := by omega
    have := left.eq_of_place right (by rw [placeX, placeY, same])
    omega
  · intro order
    exact left.rounds.le right.rounds (Int.cast_le.mpr order)

/-- Finite values are compared strictly as numbers of units. -/
theorem HasUnits.lt_iff (left : x.HasUnits a) (right : y.HasUnits b) :
    x.lt y = true ↔ a < b := by
  rw [← le_eq_false_iff right.ne_nan left.ne_nan, ← Bool.not_eq_true, right.le_iff left, not_le]

/-- A value has one number of units. -/
theorem HasUnits.unique (value : x.HasUnits a) (also : x.HasUnits b) : a = b :=
  value.eq_of_place also rfl

/-- A finite value lies between the infinities. -/
theorem HasUnits.place_bounds (value : x.HasUnits a) {p : ℤ} (placed : x.place? = some p) :
    -(f.infinityOrdinal : ℤ) < p ∧ p < f.infinityOrdinal := by
  obtain ⟨negative, n, rfl, -⟩ := value
  obtain rfl := Option.some.inj placed
  have := signed_bounds negative n
  have := n.isLt
  omega

/-- What is not below a finite value and below anything is finite. -/
theorem exists_hasUnits (low : x.HasUnits a) (above : x.le y = true) (below : y.lt z = true) :
    ∃ b, y.HasUnits b := by
  obtain ⟨p, o, placeX, placeY, order⟩ := Binary.le_iff.mp above
  obtain ⟨o', r, placeY', placeZ, order'⟩ := Binary.lt_iff.mp below
  obtain rfl := Option.some.inj (placeY.symm.trans placeY')
  have first := (low.place_bounds placeX).1
  have last := place_le placeZ
  cases y with
  | nan => cases placeY
  | finite negative n => exact ⟨_, negative, n, rfl, rfl⟩
  | infinite negative =>
    obtain rfl := Option.some.inj placeY
    cases negative <;> simp only [place?.signed, Bool.false_eq_true, if_false, if_true] at * <;> omega

/-- A finite value is less than infinity. -/
theorem HasUnits.lt_infinite (value : x.HasUnits a) : x.lt (.infinite false) = true := by
  obtain ⟨p, placed⟩ := exists_place value.ne_nan
  exact Binary.lt_iff.mpr ⟨_, _, placed, rfl, (value.place_bounds placed).2⟩

/-- A number between two values rounds to a value between them. -/
theorem Rounds.between (rounds : x.Rounds q) (low : y.HasUnits a) (high : z.HasUnits c)
    (above : a ≤ q) (below : q ≤ c) : ∃ b, x.HasUnits b ∧ a ≤ b ∧ b ≤ c := by
  have past := low.rounds.le rounds above
  have before := rounds.le high.rounds below
  obtain ⟨b, value⟩ := exists_hasUnits low past (lt_of_le_of_lt before high.lt_infinite)
  exact ⟨b, value, (low.le_iff value).mp past, (value.le_iff high).mp before⟩

/-- A number that is a value is not rounded. -/
theorem Rounds.exact (rounds : x.Rounds q) (value : y.HasUnits a) (same : q = a) :
    x.HasUnits a := by
  obtain ⟨b, found, above, below⟩ := rounds.between value value same.ge same.le
  rwa [le_antisymm above below]

/-- The ordinal of what a number that is not negative rounds to. -/
theorem Rounds.exists_ordinal (rounds : x.Rounds q) (nonneg : 0 ≤ q) (value : x.HasUnits b) :
    ∃ n, f.IsNearest q n ∧ b = f.units n := by
  obtain ⟨negative, n, rfl, near, sign⟩ := rounds
  rw [abs_of_nonneg nonneg] at near
  obtain ⟨s, m, finite, rfl⟩ := value
  unfold ofOrdinal at finite
  split at finite
  · obtain ⟨rfl, rfl⟩ := Binary.finite.inj finite
    refine ⟨n, near, ?_⟩
    rcases nonneg.eq_or_lt with rfl | positive
    · obtain rfl := ordinal_eq_zero near
      cases negative <;> simp [signedUnits, Format.units_zero]
    · rw [sign.above positive]
      rfl
  · cases finite

/-! ## Operations -/

/-- One is a number of units. -/
theorem unitsPerOne_pos : (0 : ℚ) < f.unitsPerOne := Nat.cast_pos.mpr (Nat.two_pow_pos f.scale)

/-- Negating negates the units. -/
theorem HasUnits.neg (value : x.HasUnits a) : x.neg.HasUnits (-a) := by
  obtain ⟨negative, n, rfl, rfl⟩ := value
  refine ⟨!negative, n, rfl, ?_⟩
  cases negative <;> simp [signedUnits]

/-- What is no number is no number less anything. -/
@[simp]
theorem nan_sub (y : Binary f) : .nan - y = (.nan : Binary f) := rfl

/-- Nor times anything. -/
@[simp]
theorem nan_mul (y : Binary f) : .nan * y = (.nan : Binary f) := rfl

/-- Nor as a factor. -/
@[simp]
theorem mul_nan (x : Binary f) : x * .nan = .nan := by
  cases x <;> rfl

/-- Nor divided by anything. -/
@[simp]
theorem nan_div (y : Binary f) : .nan / y = (.nan : Binary f) := rfl

/-- Nor as a divisor. -/
@[simp]
theorem div_nan (x : Binary f) : x / .nan = .nan := by
  cases x <;> rfl

/-- A positive value times infinity. -/
theorem HasUnits.mul_infinite (value : x.HasUnits a) (positive : 0 < a) :
    x * (.infinite false) = .infinite false := by
  obtain ⟨negative, n, rfl, rfl⟩ := value
  cases negative with
  | false =>
    have nonzero : f.units n ≠ 0 := by
      simp only [signedUnits, Bool.false_eq_true, if_false] at positive
      omega
    show mul (.finite false n) (.infinite false) = _
    simp only [mul, if_neg nonzero]
    rfl
  | true =>
    simp only [signedUnits, if_true] at positive
    omega

section

variable (fraction : 0 < f.fractionBits)

include fraction

/-- A quotient is rounded to the nearest value. -/
theorem nearest_rounds {negative : Bool} (num : Nat) {den : Nat} (positive : 0 < den)
    (magnitude : |q| = num / den) (sign : HasSign q negative) :
    (nearest (f := f) negative num den).Rounds q := by
  refine ⟨negative, _, rfl, ?_, sign⟩
  rw [magnitude]
  exact Format.nearestOrdinal_isNearest fraction num positive

/-- A sum is rounded once. -/
theorem add_rounds (left : x.HasUnits a) (right : y.HasUnits b) : (x + y).Rounds (a + b) := by
  obtain ⟨s, m, rfl, rfl⟩ := left
  obtain ⟨t, n, rfl, rfl⟩ := right
  rw [← Int.cast_add]
  generalize total : signedUnits s m + signedUnits t n = sum
  show (add (.finite s m) (.finite t n)).Rounds sum
  simp only [add, total]
  split
  · -- a sum that vanishes is a zero, whose sign does not matter here
    rename_i zero
    rw [zero, Int.cast_zero]
    exact nearest_rounds fraction 0 Nat.one_pos (by simp) ⟨by simp, by simp⟩
  · refine nearest_rounds fraction _ Nat.one_pos ?_ ?_
    · rw [Nat.cast_one, div_one, Nat.cast_natAbs, Int.cast_abs]
    · simpa only [Int.cast_lt_zero] using HasSign.self (sum : ℚ)

/-- A difference is rounded once. -/
theorem sub_rounds (left : x.HasUnits a) (right : y.HasUnits b) : (x - y).Rounds (a - b) := by
  have sum := add_rounds fraction left right.neg
  rwa [Int.cast_neg, ← sub_eq_add_neg] at sum

/-- A product is rounded once, and counts the units of one of its factors only. -/
theorem mul_rounds (left : x.HasUnits a) (right : y.HasUnits b) :
    (x * y).Rounds (a * b / f.unitsPerOne) := by
  obtain ⟨s, m, rfl, rfl⟩ := left
  obtain ⟨t, n, rfl, rfl⟩ := right
  have positive := unitsPerOne_pos (f := f)
  show (nearest (s != t) (f.units m * f.units n) f.unitsPerOne).Rounds _
  refine nearest_rounds fraction _ (Nat.two_pow_pos f.scale) ?_ ?_
  · rw [abs_div, abs_mul, abs_signedUnits, abs_signedUnits, abs_of_pos positive, Nat.cast_mul]
  · rw [div_eq_mul_inv]
    exact ((hasSign_signedUnits s m).mul (hasSign_signedUnits t n)).scale (inv_pos.mpr positive)

/-- A quotient is rounded once, and counts its units again. -/
theorem div_rounds (left : x.HasUnits a) (right : y.HasUnits b) (nonzero : b ≠ 0) :
    (x / y).Rounds (a * f.unitsPerOne / b) := by
  obtain ⟨s, m, rfl, rfl⟩ := left
  obtain ⟨t, n, rfl, rfl⟩ := right
  have positive := unitsPerOne_pos (f := f)
  have divisor : f.units n ≠ 0 := by
    intro zero
    apply nonzero
    cases t <;> simp [signedUnits, zero]
  show (div (.finite s m) (.finite t n)).Rounds _
  simp only [div, if_neg divisor]
  refine nearest_rounds fraction _ (Nat.pos_of_ne_zero divisor) ?_ ?_
  · rw [abs_div, abs_mul, abs_signedUnits, abs_signedUnits, abs_of_pos positive, Nat.cast_mul]
  · rw [mul_div_right_comm, div_eq_mul_inv]
    exact ((hasSign_signedUnits s m).mul (hasSign_signedUnits t n).inv).scale positive

/-- A value by infinity is a zero. -/
theorem HasUnits.div_infinite (value : x.HasUnits a) (negative : Bool) :
    (x / .infinite negative).HasUnits 0 := by
  have inside : 0 < f.infinityOrdinal := by
    obtain ⟨-, n, -⟩ := value
    exact Nat.zero_lt_of_lt n.isLt
  obtain ⟨s, n, rfl, -⟩ := value
  have zero : (finite (f := f) false ⟨0, inside⟩).HasUnits 0 :=
    ⟨false, _, rfl, by simp [signedUnits, Format.units_zero]⟩
  have rounds : (nearest (f := f) (s != negative) 0 1).Rounds 0 :=
    nearest_rounds fraction 0 Nat.one_pos (by simp) ⟨by simp, by simp⟩
  exact rounds.exact zero Int.cast_zero.symm

/-- A fraction is rounded once. -/
theorem ofRat_rounds (q : ℚ) : (ofRat (f := f) q).Rounds (q * f.unitsPerOne) := by
  have positive := unitsPerOne_pos (f := f)
  refine nearest_rounds fraction _ q.den_pos ?_ ((HasSign.self q).scale positive)
  have split : |q| = q.num.natAbs / q.den := by
    conv_lhs => rw [← Rat.num_div_den q]
    rw [abs_div, Nat.abs_cast, Nat.cast_natAbs, Int.cast_abs]
  rw [abs_mul, abs_of_pos positive, split, Nat.cast_mul, div_mul_eq_mul_div]

end

end Binary

end EmuHost
