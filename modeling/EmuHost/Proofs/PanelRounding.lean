import EmuHost.Proofs.LetterboxMapping
import EmuHost.Proofs.RoundedArithmetic

/-!
# One axis of the panel, rounded

The mapping of a point onto the panel along one axis, with a rounding at every step. A number that
the comparisons do not put outside lies between the corner and the far edge exactly, because a sum
is not rounded past a number that it does not reach (`Panel.exists_isInside`). Its distance from the
corner is rounded to the size of the screen at most, and then the coordinate lies on the panel; it
stays short of the far edge exactly if the distance stays short of the size
(`Panel.scaled_lt_iff`).

This takes a finite size and a finite corner. A positive ratio gives them, whatever it is: a size
that is divided by it would overflow only for a ratio that is so small that the other way of
computing the screen is taken (`Panel.exists_fits_narrow`, `Panel.exists_fits_high`).

## Key results

- `Panel.exists_isInside`: what is known of a number that is not outside
- `Panel.scaled_between`, `Panel.scaled_lt_iff`: the coordinate it becomes
- `Panel.exists_fits_narrow`, `Panel.exists_fits_high`: the sizes of the screen
- `Panel.exists_corner`: the corner
-/

namespace EmuHost.Panel

open Binary

/-! ## Constants -/

/-- Single precision has a fraction. -/
theorem single_fraction : 0 < Format.single.fractionBits := by decide

/-- The number of values in a binade of single precision. -/
theorem single_binade : Format.single.binade = 2 ^ 23 := by decide

/-- The place of its infinity. -/
theorem single_infinity : Format.single.infinityOrdinal = 2139095040 := by decide

/-- One in units. -/
def unit : ℤ := Format.single.unitsPerOne

/-- One in units. -/
theorem unit_eq : unit = 2 ^ 149 := by decide +kernel

/-- One in units, as a fraction. -/
theorem cast_unit : ((Format.single.unitsPerOne : Nat) : ℚ) = unit := (Int.cast_natCast _).symm

/-- There are units. -/
theorem unit_pos : (0 : ℚ) < unit := by
  rw [← cast_unit]
  exact unitsPerOne_pos

/-- Zero in units. -/
theorem hasUnits_zero : (Scalar.ofNat 0 : Binary32).HasUnits 0 :=
  ⟨false, ⟨0, by decide⟩, by decide +kernel, by decide⟩

/-- One in units. -/
theorem hasUnits_one : (Scalar.ofNat 1 : Binary32).HasUnits unit :=
  ⟨false, ⟨0x3f800000, by decide⟩, by decide +kernel, by decide +kernel⟩

/-- Half of one in units. -/
theorem hasUnits_half : (Scalar.ofRat (1 / 2) : Binary32).HasUnits (unit / 2) :=
  ⟨false, ⟨0x3f000000, by decide⟩, by decide +kernel, by decide +kernel⟩

/-- The greatest value below one. -/
def belowOne : Binary32 := .finite false ⟨0x3f7fffff, by decide⟩

/-- The greatest value below one in units. -/
theorem hasUnits_belowOne : belowOne.HasUnits (unit - unit / (2 * Format.single.binade)) :=
  ⟨false, _, rfl, by decide +kernel⟩

/-- A side of the panel. What is below one stays short of it when it is multiplied by it. -/
structure IsSide (k : Binary32) (length : ℤ) : Prop where
  nonneg : 0 ≤ length
  value : k.HasUnits (length * unit)
  short : (belowOne * k).lt k = true

/-- The width of the panel. -/
theorem width_isSide : IsSide (Scalar.ofNat width) 1280 where
  nonneg := by decide
  value := ⟨false, ⟨0x44a00000, by decide⟩, by decide +kernel, by decide +kernel⟩
  short := by decide +kernel

/-- The height of the panel. -/
theorem height_isSide : IsSide (Scalar.ofNat height) 720 where
  nonneg := by decide
  value := ⟨false, ⟨0x44340000, by decide⟩, by decide +kernel, by decide +kernel⟩
  short := by decide +kernel

/-! ## A point of the screen -/

section

variable {p t s k : Binary32} {size corner length : ℤ}

/-- What is known of a number that is not outside the screen on one axis: it lies between the corner
and the far edge, and its rounded distance from the corner is not more than the size. -/
structure IsInside (p t s : Binary32) (corner size point distance : ℤ) : Prop where
  value : p.HasUnits point
  notBefore : corner ≤ point
  notPast : point < corner + size
  rounded : (p - t).HasUnits distance
  nonneg : 0 ≤ distance
  most : distance ≤ size

/-- A point that is not outside is inside, with a distance that can be held. -/
theorem exists_isInside (hasSize : s.HasUnits size) (hasCorner : t.HasUnits corner)
    (number : p ≠ .nan) (notBefore : p.lt t = false) (notPast : (t + s).le p = false) :
    ∃ point distance, IsInside p t s corner size point distance := by
  have sum := add_rounds single_fraction hasCorner hasSize
  have above := (lt_eq_false_iff number hasCorner.ne_nan).mp notBefore
  have below := (le_eq_false_iff sum.ne_nan number).mp notPast
  obtain ⟨point, value⟩ := exists_hasUnits hasCorner above below
  have after : corner ≤ point := (hasCorner.le_iff value).mp above
  have before : point < corner + size := by
    -- a point that is past the exact sum is past the rounded one
    by_contra past
    have exact : ((corner : ℚ) + size) ≤ point := by exact_mod_cast not_lt.mp past
    rw [sum.le value.rounds exact] at notPast
    cases notPast
  have difference := sub_rounds single_fraction value hasCorner
  have low : ((0 : ℤ) : ℚ) ≤ point - corner := by
    rw [Int.cast_zero, sub_nonneg]
    exact_mod_cast after
  have high : (point : ℚ) - corner ≤ size := by
    rw [sub_le_iff_le_add']
    exact_mod_cast before.le
  obtain ⟨distance, found, nonneg, most⟩ := difference.between hasUnits_zero hasSize low high
  exact ⟨point, distance, value, after, before, found, nonneg, most⟩

/-- A smaller size is at most the greatest value below one in parts of a greater one. -/
theorem part_le {less more : ℤ} {x y : Binary32} (small : x.HasUnits less) (nonneg : 0 ≤ less)
    (great : y.HasUnits more) (order : less < more) :
    (less * unit / more : ℚ) ≤ ((unit - unit / (2 * Format.single.binade) : ℤ) : ℚ) := by
  -- as values they have places, and the places are at least one apart
  obtain ⟨m, rfl⟩ := small.exists_ordinal nonneg
  obtain ⟨n, rfl⟩ := great.exists_ordinal (nonneg.trans order.le)
  have ordinals : (m : Nat) < n := Format.units_strictMono.lt_iff_lt.mp (by exact_mod_cast order)
  have part : (Format.single.units m * (2 * Format.single.binade) + Format.single.units n : ℚ) ≤
      Format.single.units n * (2 * Format.single.binade) := by
    exact_mod_cast Format.units_lt_part ordinals
  have positive : (0 : ℚ) < Format.single.units n := by exact_mod_cast nonneg.trans_lt order
  have whole : ((unit - unit / (2 * Format.single.binade) : ℤ) : ℚ) =
      unit - unit / (2 * Format.single.binade) := by
    rw [unit_eq, single_binade]
    norm_num
  have one := unit_pos
  have size : (0 : ℚ) < 2 * Format.single.binade := by
    rw [single_binade]
    norm_num
  -- all over the greater size: what is missing to one is at least half a place
  rw [whole, Int.cast_natCast, Int.cast_natCast, div_le_iff₀ positive, sub_mul, le_sub_iff_add_le,
    div_mul_eq_mul_div, ← le_sub_iff_add_le', div_le_iff₀ size]
  nlinarith

/-- A part of a side is rounded once. -/
theorem IsSide.times_rounds {part : ℤ} {x : Binary32} (isSide : IsSide k length)
    (hasPart : x.HasUnits part) : (x * k).Rounds (part * length) := by
  have product := mul_rounds single_fraction hasPart isSide.value
  rwa [cast_unit, Int.cast_mul, ← mul_assoc, mul_div_cancel_right₀ _ unit_pos.ne'] at product

/-- The part of the size that a distance is lies between zero and one. -/
theorem part_bounds {distance : ℤ} (positive : 0 < size) (nonneg : 0 ≤ distance)
    (most : distance ≤ size) :
    ((0 : ℤ) : ℚ) ≤ distance * unit / size ∧ (distance * unit / size : ℚ) ≤ unit := by
  have one := unit_pos
  have whole : (0 : ℚ) < size := by exact_mod_cast positive
  have low : (0 : ℚ) ≤ distance := by exact_mod_cast nonneg
  have high : (distance : ℚ) ≤ size := by exact_mod_cast most
  constructor
  · rw [Int.cast_zero]
    positivity
  · rw [div_le_iff₀ whole]
    nlinarith

/-- A distance of at most the size becomes a coordinate on the panel. -/
theorem scaled_between {d : Binary32} {distance : ℤ} (isSide : IsSide k length)
    (hasSize : s.HasUnits size) (positive : 0 < size) (value : d.HasUnits distance)
    (nonneg : 0 ≤ distance) (most : distance ≤ size) :
    ∃ panel, (d / s * k).HasUnits panel ∧ 0 ≤ panel ∧ panel ≤ length * unit := by
  have quotient := div_rounds single_fraction value hasSize positive.ne'
  rw [cast_unit] at quotient
  obtain ⟨low, high⟩ := part_bounds positive nonneg most
  -- a part of the side is between nothing and all of it, and so is its multiple
  obtain ⟨part, hasPart, above, below⟩ := quotient.between hasUnits_zero hasUnits_one low high
  have above : (0 : ℚ) ≤ part := by exact_mod_cast above
  have below : (part : ℚ) ≤ unit := by exact_mod_cast below
  have side : (0 : ℚ) ≤ length := by exact_mod_cast isSide.nonneg
  refine (isSide.times_rounds hasPart).between hasUnits_zero isSide.value ?_ ?_
  · rw [Int.cast_zero]
    positivity
  · rw [Int.cast_mul]
    nlinarith

/-- The coordinate stays short of the far edge exactly if the distance stays short of the size. -/
theorem scaled_lt_iff {d : Binary32} {distance : ℤ} (isSide : IsSide k length)
    (hasSize : s.HasUnits size) (positive : 0 < size) (value : d.HasUnits distance)
    (nonneg : 0 ≤ distance) (most : distance ≤ size) :
    (d / s * k).lt k = true ↔ distance < size := by
  have quotient := div_rounds single_fraction value hasSize positive.ne'
  rw [cast_unit] at quotient
  constructor
  · intro short
    -- the whole size would be one part, which becomes the whole side
    by_contra whole
    obtain rfl : distance = size := by omega
    have nonzero : (distance : ℚ) ≠ 0 := by exact_mod_cast positive.ne'
    rw [mul_div_cancel_left₀ _ nonzero] at quotient
    have full := isSide.times_rounds (quotient.exact hasUnits_one rfl)
    rw [← Int.cast_mul, mul_comm] at full
    have same := full.exact isSide.value rfl
    rw [same.lt_iff isSide.value] at short
    exact absurd short (lt_irrefl _)
  · intro less
    obtain ⟨low, -⟩ := part_bounds positive nonneg most
    obtain ⟨part, hasPart, -, below⟩ := quotient.between hasUnits_zero hasUnits_belowOne low
      (part_le value nonneg hasSize less)
    have below : (part : ℚ) ≤ ((unit - unit / (2 * Format.single.binade) : ℤ) : ℚ) := by
      exact_mod_cast below
    have side : (0 : ℚ) ≤ length := by exact_mod_cast isSide.nonneg
    have order := (isSide.times_rounds hasPart).le (isSide.times_rounds hasUnits_belowOne)
      (mul_le_mul_of_nonneg_right below side)
    exact lt_of_le_of_lt order isSide.short

/-- Along an axis on which the screen starts at the origin, distances are not rounded. -/
theorem IsInside.short_of_origin {point distance : ℤ}
    (inside : IsInside p t s 0 size point distance) (origin : t.HasUnits 0) : distance < size := by
  have difference := sub_rounds single_fraction inside.value origin
  have exact := difference.exact inside.value (by simp)
  have below := inside.notPast
  have same := inside.rounded.unique exact
  omega

end

/-! ## Sizes of the screen -/

/-- A size of the screen along one axis: it does not pass the size of the client area, but for the
rounding of the last place. -/
structure Fits (c s : Binary32) (client size : ℤ) : Prop where
  hasClient : c.HasUnits client
  hasSize : s.HasUnits size
  nonneg : 0 ≤ size
  notLarge : ∃ n : Nat, n + 1 < Format.single.infinityOrdinal ∧ client = Format.single.units n ∧
    size ≤ Format.single.units (n + 1)

section

variable {c o a s x : Binary32} {client other size part ratio : ℤ}

/-- Halving rounds once. -/
theorem halved_rounds (value : x.HasUnits part) :
    (x * Scalar.ofRat (1 / 2)).Rounds (part / 2) := by
  have product := mul_rounds single_fraction value hasUnits_half
  have even : ((unit / 2 : ℤ) : ℚ) = unit / 2 := by
    rw [unit_eq]
    norm_num
  rwa [cast_unit, even, ← mul_div_assoc, div_div, mul_div_mul_right _ _ unit_pos.ne'] at product

/-- The corner of a screen that fits is a value. -/
theorem exists_corner (fits : Fits c s client size) :
    ∃ corner, ((c - s) * Scalar.ofRat (1 / 2)).HasUnits corner := by
  obtain ⟨n, finite, rfl, most⟩ := fits.notLarge
  have next : (Binary.finite (f := .single) false ⟨n + 1, finite⟩).HasUnits
      (Format.single.units (n + 1)) := hasUnits_finite _
  have above : (size : ℚ) ≤ Format.single.units (n + 1) := by exact_mod_cast most
  have nonneg : (0 : ℚ) ≤ size := by exact_mod_cast fits.nonneg
  have order : (Format.single.units n : ℚ) ≤ Format.single.units (n + 1) := by
    exact_mod_cast (Format.units_lt_succ n).le
  have before : (0 : ℚ) ≤ Format.single.units n := Nat.cast_nonneg _
  -- what is left of the area, and half of it, lie between the next value and its negative
  have difference := sub_rounds single_fraction fits.hasClient fits.hasSize
  obtain ⟨gap, value, low, high⟩ := difference.between next.neg next (by push_cast; linarith)
    (by push_cast; linarith)
  have low : (-(Format.single.units (n + 1)) : ℚ) ≤ gap := by exact_mod_cast low
  have high : (gap : ℚ) ≤ Format.single.units (n + 1) := by exact_mod_cast high
  obtain ⟨corner, value, -⟩ := (halved_rounds value).between next.neg next (by push_cast; linarith)
    (by push_cast; linarith)
  exact ⟨corner, value⟩

/-- A size of a client area is a value from 1 to `2 ^ 32`. -/
theorem exists_client {w : Nat} (positive : 0 < w) (small : w < 2 ^ 32) :
    ∃ n : Nat, 0x3f800000 ≤ n ∧ n ≤ 0x4f800000 ∧
      (Scalar.ofNat w : Binary32).HasUnits (Format.single.units n) := by
  have rounds := ofRat_rounds single_fraction (w : ℚ)
  rw [cast_unit] at rounds
  have one := unit_pos
  have most : (Scalar.ofNat (2 ^ 32) : Binary32).HasUnits (Format.single.units 0x4f800000) :=
    ⟨false, ⟨0x4f800000, by decide⟩, by decide +kernel, rfl⟩
  have least : (Scalar.ofNat 1 : Binary32).HasUnits (Format.single.units 0x3f800000) :=
    ⟨false, ⟨0x3f800000, by decide⟩, by decide +kernel, rfl⟩
  have low : ((Format.single.units 0x3f800000 : ℤ) : ℚ) ≤ w * unit := by
    rw [show (Format.single.units 0x3f800000 : ℤ) = unit by decide +kernel]
    have : (1 : ℚ) ≤ w := by exact_mod_cast positive
    nlinarith
  have high : (w * unit : ℚ) ≤ (Format.single.units 0x4f800000 : ℤ) := by
    rw [show (Format.single.units 0x4f800000 : ℤ) = 2 ^ 32 * unit by decide +kernel, Int.cast_mul]
    have : (w : ℚ) ≤ 2 ^ 32 := by exact_mod_cast small.le
    push_cast
    nlinarith
  obtain ⟨client, value, above, below⟩ := rounds.between least most low high
  -- between the two ends there are only values with places between theirs
  obtain ⟨n, rfl⟩ := value.exists_ordinal (by omega)
  have above : 0x3f800000 ≤ (n : Nat) :=
    Format.units_strictMono.le_iff_le.mp (by exact_mod_cast above)
  have below : (n : Nat) ≤ 0x4f800000 :=
    Format.units_strictMono.le_iff_le.mp (by exact_mod_cast below)
  exact ⟨n, above, below, value⟩

/-- A ratio that is taken is infinite or a positive value. -/
theorem ratio_cases (number : a ≠ .nan) (taken : a.le (Scalar.ofNat 0) = false) :
    a = .infinite false ∨ ∃ ratio, a.HasUnits ratio ∧ 0 < ratio := by
  cases a with
  | nan => exact absurd rfl number
  | infinite negative =>
    cases negative with
    | false => exact .inl rfl
    | true =>
      have below : (Binary.infinite true : Binary32).le (Scalar.ofNat 0) = true := by decide +kernel
      rw [below] at taken
      cases taken
  | finite negative n =>
    have value : (Binary.finite negative n).HasUnits (signedUnits negative n) := ⟨_, _, rfl, rfl⟩
    refine .inr ⟨_, value, ?_⟩
    rw [← not_le, ← value.le_iff hasUnits_zero, taken]
    nofun

/-- A screen that is as wide as the area fits. -/
theorem fits_client {n : Nat} (value : c.HasUnits (Format.single.units n))
    (small : n ≤ 0x4f800000) :
    Fits c c (Format.single.units n) (Format.single.units n) where
  hasClient := value
  hasSize := value
  nonneg := by omega
  notLarge := by
    have infinity := single_infinity
    exact ⟨n, by omega, rfl, by exact_mod_cast (Format.units_lt_succ n).le⟩

/-- A screen that is as high as the area and less wide. -/
theorem exists_fits_narrow {m n : Nat} (height : o.HasUnits (Format.single.units m))
    (positive : 0 < Format.single.units m) (width : c.HasUnits (Format.single.units n))
    (small : n ≤ 0x4f800000) (taken : a.le (Scalar.ofNat 0) = false)
    (narrow : (o * a).lt c = true) : ∃ size, Fits c (o * a) (Format.single.units n) size := by
  have number : a ≠ .nan := by
    rintro rfl
    obtain ⟨negative, k, rfl, -⟩ := height
    cases (ne_nan_of_le (le_of_lt narrow)).1 rfl
  obtain ⟨size, value, nonneg⟩ : ∃ size, (o * a).HasUnits size ∧ 0 ≤ size := by
    rcases ratio_cases number taken with rfl | ⟨ratio, hasRatio, above⟩
    · -- an infinite ratio makes an infinite width, which is not narrow
      rw [height.mul_infinite (by exact_mod_cast positive)] at narrow
      have order := (lt_eq_false_iff (by nofun) width.ne_nan).mpr (le_of_lt width.lt_infinite)
      rw [order] at narrow
      cases narrow
    · have product := mul_rounds single_fraction height hasRatio
      have sign : ((0 : ℤ) : ℚ) ≤
          (Format.single.units m : ℤ) * ratio / Format.single.unitsPerOne := by
        have : (0 : ℚ) < ratio := by exact_mod_cast above
        rw [Int.cast_zero]
        positivity
      have low := hasUnits_zero.rounds.le product sign
      obtain ⟨size, value⟩ := exists_hasUnits hasUnits_zero low narrow
      exact ⟨size, value, (hasUnits_zero.le_iff value).mp low⟩
  have less := (value.lt_iff width).mp narrow
  have client := fits_client width small
  obtain ⟨k, finite, same, most⟩ := client.notLarge
  exact ⟨size, width, value, nonneg, k, finite, same, less.le.trans most⟩

/-- What rounds to a value or past it does not lie below the middle before the value. -/
theorem middle_le_of_le {m n : Nat} {q : ℚ} {y : Binary32} (rounds : y.Rounds q) (nonneg : 0 ≤ q)
    (value : x.HasUnits (Format.single.units n)) (reached : x.le y = true) (succ : m + 1 = n) :
    (Format.single.units m + Format.single.units n : ℚ) ≤ 2 * q := by
  obtain ⟨p, p', placeX, placeY, order⟩ := Binary.le_iff.mp reached
  obtain ⟨k, near, placeK⟩ := rounds.place
  obtain ⟨j, nearJ, placeJ⟩ := value.rounds.place
  obtain ⟨i, same⟩ := value.exists_ordinal (by omega)
  have whole : (0 : ℚ) ≤ Format.single.units n := Nat.cast_nonneg _
  have ordinal : n = i := Format.units_strictMono.injective (by exact_mod_cast same)
  have finite := i.isLt
  rw [Int.cast_natCast, abs_of_nonneg whole] at nearJ
  obtain rfl : n = j := (Format.isNearest_units n).unique nearJ
  rw [placeJ, Int.cast_natCast, decide_eq_false (not_lt.mpr whole)] at placeX
  rw [placeK, decide_eq_false (not_lt.mpr nonneg)] at placeY
  obtain rfl := Option.some.inj placeX
  -- both sides are positive, so their order is that of their places
  obtain rfl := Option.some.inj placeY
  simp only [place?.signed, Bool.false_eq_true, if_false, Nat.cast_le] at order
  have past : n ≤ k := by omega
  obtain ⟨l, rfl⟩ : ∃ l, k = l + 1 := ⟨k - 1, by omega⟩
  rw [abs_of_nonneg nonneg] at near
  have first : (Format.single.units m : ℚ) ≤ Format.single.units l :=
    -- the value before lies no further out than what is before the rounded one
    Nat.cast_le.mpr (Format.units_strictMono.monotone (by omega))
  have second : (Format.single.units n : ℚ) ≤ Format.single.units (l + 1) :=
    Nat.cast_le.mpr (Format.units_strictMono.monotone past)
  have := near.low l rfl
  linarith

/-- A screen that is as wide as the area. -/
theorem exists_fits_high {m n : Nat} (height : o.HasUnits (Format.single.units m))
    (small : m ≤ 0x4f800000) (width : c.HasUnits (Format.single.units n)) (large : 0x3f800000 ≤ n)
    (number : a ≠ .nan) (taken : a.le (Scalar.ofNat 0) = false)
    (wide : (o * a).lt c = false) : ∃ size, Fits o (c / a) (Format.single.units m) size := by
  have infinity := single_infinity
  rcases ratio_cases number taken with rfl | ⟨ratio, hasRatio, above⟩
  · have zero := HasUnits.div_infinite single_fraction width false
    exact ⟨0, height, zero, le_refl 0, m, by omega, rfl, by omega⟩
  · have product := mul_rounds single_fraction height hasRatio
    have quotient := div_rounds single_fraction width hasRatio above.ne'
    rw [cast_unit] at product quotient
    have one := unit_pos
    have positive : (0 : ℚ) < ratio := by exact_mod_cast above
    -- the width is not above the rounded product, so it is hardly above the exact one
    have reached := (lt_eq_false_iff product.ne_nan width.ne_nan).mp wide
    obtain ⟨k, succ⟩ : ∃ k, k + 1 = n := ⟨n - 1, by omega⟩
    have middle := middle_le_of_le product (by positivity) width reached succ
    rw [← mul_div_assoc, le_div_iff₀ one, Int.cast_natCast] at middle
    have binade := single_binade
    have before : (Format.single.units n * 8388608 : ℚ) ≤
        Format.single.units k * 8388608 + Format.single.units n := by
      have := Format.le_units_pred_part (f := .single) succ (by omega)
      rw [binade] at this
      exact_mod_cast this
    have next : (Format.single.units m * 16777216 + Format.single.units (m + 1) : ℚ) ≤
        Format.single.units (m + 1) * 16777216 := by
      have := Format.units_lt_part (f := .single) (Nat.lt_succ_self m)
      rw [binade] at this
      exact_mod_cast this
    -- the height is at most the next value, since it is less than one part of it away
    have most : ((Format.single.units n : ℤ) * unit / ratio : ℚ) ≤ Format.single.units (m + 1) := by
      have scaled := mul_le_mul_of_nonneg_right before one.le
      have part := mul_le_mul_of_nonneg_right next positive.le
      rw [div_le_iff₀ positive, Int.cast_natCast]
      linarith
    have low : ((0 : ℤ) : ℚ) ≤ (Format.single.units n : ℤ) * unit / ratio := by
      rw [Int.cast_zero]
      positivity
    obtain ⟨size, value, nonneg, below⟩ :=
      quotient.between hasUnits_zero (hasUnits_finite ⟨m + 1, by omega⟩) low most
    exact ⟨size, height, value, nonneg, m, by omega, rfl, by exact_mod_cast below⟩

end

end EmuHost.Panel
