import EmuHost.Proofs.NearestValues
import Mathlib.Algebra.Order.Field.Power
import Mathlib.Tactic.FieldSimp

/-!
# Shortest decimals that are read again

A value is written as a decimal that is read back as this value by its own format
(`Format.decimal_isNearest`). A decimal is read by rounding the number that it writes
(`Binary.ofDecimal_eq`). The values of four bytes are written by their own format and read by the
one of eight bytes, whose value is then narrowed: `Binary32.reread` is what comes back.

## Key results

- `Format.decimal_isNearest`: the decimal of a value is read back by its own format
- `Binary32.reread_eq_self_iff`: which values come back as they were from the wider format
- `Binary32.reread_of_isLost`: what comes back of the others
-/

namespace EmuHost

/-- One in units is a power of two. -/
theorem Format.cast_unitsPerOne (f : Format) : (f.unitsPerOne : ℚ) = 2 ^ f.scale := by
  show ((2 ^ f.scale : Nat) : ℚ) = 2 ^ f.scale
  push_cast
  rfl

namespace Decimal

/-- The number that a decimal writes. -/
def value (d : Decimal) : ℚ := d.digits * 10 ^ d.exponent

/-- Zeros at the end do not matter to the value. -/
theorem value_trim (fuel : Nat) (d : Decimal) : (trim fuel d).value = d.value := by
  -- on the number of zeros that are taken away at most
  induction fuel generalizing d with
  | zero => rfl
  | succ fuel ih =>
    rw [trim]
    split
    · rename_i zero
      rw [ih, value, value, zpow_add_one₀ (by norm_num)]
      have whole : (d.digits : ℚ) = (d.digits / 10 : Nat) * 10 := by
        exact_mod_cast (Nat.div_mul_cancel (Nat.dvd_of_mod_eq_zero zero.2)).symm
      rw [whole]
      ring
    · rfl

/-- The place of the value that a decimal is rounded to. -/
def ordinal (f : Format) (d : Decimal) : Nat :=
  f.nearestOrdinal (d.digits * 10 ^ d.exponent.toNat * f.unitsPerOne) (10 ^ (-d.exponent).toNat)

/-- The place of a decimal is the one nearest to its value. -/
theorem ordinal_isNearest {f : Format} (fraction : 0 < f.fractionBits) (d : Decimal) :
    f.IsNearest (d.value * 2 ^ f.scale) (d.ordinal f) := by
  have positive : 0 < 10 ^ (-d.exponent).toNat := Nat.pow_pos (by decide)
  have near := f.nearestOrdinal_isNearest fraction
    (d.digits * 10 ^ d.exponent.toNat * f.unitsPerOne) positive
  have power : (10 : ℚ) ^ d.exponent = 10 ^ d.exponent.toNat / 10 ^ (-d.exponent).toNat := by
    rw [← zpow_natCast, ← zpow_natCast, ← zpow_sub₀ (by norm_num)]
    congr 1
    omega
  have same : ((d.digits * 10 ^ d.exponent.toNat * f.unitsPerOne : Nat) : ℚ) /
      (10 ^ (-d.exponent).toNat : Nat) = d.value * 2 ^ f.scale := by
    push_cast
    rw [value, power, Format.cast_unitsPerOne]
    ring
  rwa [same] at near

end Decimal

namespace Format

variable {f : Format}

/-- The number of units that a decimal writes, with the powers of five on one side. -/
theorem value_mul_scale (digits more : Nat) :
    (⟨digits, (more : Int) - f.scale⟩ : Decimal).value * 2 ^ f.scale =
      ((digits * 10 ^ more : Nat) : ℚ) / (5 ^ f.scale : Nat) := by
  have ten : (10 : ℚ) ^ f.scale = 2 ^ f.scale * 5 ^ f.scale := by
    rw [← mul_pow]
    norm_num
  have nonzero : (2 : ℚ) ^ f.scale ≠ 0 := by positivity
  rw [Decimal.value]
  dsimp only
  rw [zpow_sub₀ (by norm_num), zpow_natCast, zpow_natCast, ten]
  push_cast
  field_simp

/-- A decimal that the search finds is read back. -/
theorem decimalOn?_isNearest (fraction : 0 < f.fractionBits) {n exact length count : Nat}
    {d : Decimal} (found : f.decimalOn? n exact length count = some d) :
    f.IsNearest (d.value * 2 ^ f.scale) n := by
  have reads (digits : Nat)
      (back : (f.nearestOrdinal (digits * Nat.pow 10 (length - count)) (Nat.pow 5 f.scale) == n)
        = true) :
      f.IsNearest ((⟨digits, ((length - count : Nat) : Int) - f.scale⟩ : Decimal).value
        * 2 ^ f.scale) n := by
    rw [value_mul_scale, ← eq_of_beq back]
    exact nearestOrdinal_isNearest fraction _ (Nat.pow_pos (by decide))
  simp only [decimalOn?] at found
  -- which of the two neighbours comes first does not matter
  generalize (ite (2 * (exact % Nat.pow 10 (length - count)) < Nat.pow 10 (length - count)) _ _ :
    Nat × Nat) = neighbours at found
  split at found
  · rename_i back
    cases found
    exact reads _ back
  · split at found
    · rename_i back
      cases found
      exact reads _ back
    · cases found

/-- The shortest decimal of a value is read back. -/
theorem shortest_isNearest (fraction : 0 < f.fractionBits) (n : Nat) :
    f.IsNearest ((f.shortest n).value * 2 ^ f.scale) n := by
  simp only [shortest, Decimal.value_trim]
  generalize (Nat.toDigits 10 (f.units n * Nat.pow 5 f.scale)).length = length
  cases search : (List.range length).findSome? fun k =>
      f.decimalOn? n (f.units n * Nat.pow 5 f.scale) length (k + 1) with
  | some d =>
    obtain ⟨k, -, found⟩ := List.exists_of_findSome?_eq_some search
    exact decimalOn?_isNearest fraction found
  | none =>
    -- the exact expansion writes the value itself
    have exact := f.value_mul_scale (f.units n * Nat.pow 5 f.scale) 0
    have five : ((Nat.pow 5 f.scale : Nat) : ℚ) ≠ 0 := by
      have : 0 < Nat.pow 5 f.scale := Nat.pow_pos (by decide)
      exact_mod_cast this.ne'
    have self : ((f.units n * Nat.pow 5 f.scale * 10 ^ 0 : Nat) : ℚ) / (5 ^ f.scale : Nat) =
        f.units n := by
      rw [Nat.pow_zero, Nat.mul_one, Nat.cast_mul]
      exact mul_div_cancel_right₀ _ five
    rw [self, Nat.cast_zero, zero_sub] at exact
    rw [Option.getD_none, exact]
    exact f.isNearest_units n

/-- The decimal that a value is written as. -/
def decimal (f : Format) (n : Nat) : Decimal := if f.units n = 0 then ⟨0, 0⟩ else f.shortest n

/-- The first place is zero. -/
theorem units_zero : f.units 0 = 0 := units_of_le (Nat.zero_le _)

/-- The decimal of a value is nearest to it. -/
theorem decimal_isNearest (fraction : 0 < f.fractionBits) (n : Nat) :
    f.IsNearest ((f.decimal n).value * 2 ^ f.scale) n := by
  unfold decimal
  split
  · rename_i zero
    have first : n = 0 := f.units_strictMono.injective (zero.trans units_zero.symm)
    subst first
    have near := f.isNearest_units 0
    rw [units_zero] at near
    rw [Decimal.value, Nat.cast_zero, zero_mul, zero_mul]
    exact_mod_cast near
  · exact shortest_isNearest fraction n

end Format

namespace Decimal

/-- The number of digits before the point. -/
def places (d : Decimal) : Int := (Nat.toDigits 10 d.digits).length + d.exponent

/-- A decimal is less than the power behind its places. -/
theorem value_lt (d : Decimal) : d.value < 10 ^ d.places := by
  have digits : d.digits < 10 ^ (Nat.toDigits 10 d.digits).length :=
    (Nat.length_toDigits_le_iff (by decide) Nat.length_toDigits_pos).1 (Nat.le_refl _)
  have cast : (d.digits : ℚ) < 10 ^ (Nat.toDigits 10 d.digits).length := by exact_mod_cast digits
  have power : (0 : ℚ) < 10 ^ d.exponent := by positivity
  rw [value, places, zpow_add₀ (by norm_num), zpow_natCast]
  exact mul_lt_mul_of_pos_right cast power

/-- And at least the power of its first place. -/
theorem le_value {d : Decimal} (nonzero : d.digits ≠ 0) : 10 ^ (d.places - 1) ≤ d.value := by
  have digits : 10 ^ ((Nat.toDigits 10 d.digits).length - 1) ≤ d.digits := by
    by_contra less
    rw [Nat.not_le] at less
    rcases Nat.eq_zero_or_pos ((Nat.toDigits 10 d.digits).length - 1) with zero | more
    · rw [zero, Nat.pow_zero] at less
      omega
    · have := (Nat.length_toDigits_le_iff (by decide) more).2 less
      omega
  have cast : (10 ^ ((Nat.toDigits 10 d.digits).length - 1) : ℚ) ≤ d.digits := by
    exact_mod_cast digits
  have power : (0 : ℚ) < 10 ^ d.exponent := by positivity
  have some : 0 < (Nat.toDigits 10 d.digits).length := Nat.length_toDigits_pos
  have exponents : d.places - 1 = ((Nat.toDigits 10 d.digits).length - 1 : Nat) + d.exponent := by
    rw [places]
    omega
  rw [value, exponents, zpow_add₀ (by norm_num), zpow_natCast]
  exact mul_le_mul_of_nonneg_right cast power.le

/-- A decimal without digits stands for zero. -/
theorem ordinal_of_zero {f : Format} (fraction : 0 < f.fractionBits) {d : Decimal}
    (zero : d.digits = 0) : d.ordinal f = 0 := by
  have near := d.ordinal_isNearest fraction
  have first := f.isNearest_units 0
  rw [Format.units_zero, Nat.cast_zero] at first
  rw [value, zero, Nat.cast_zero, zero_mul, zero_mul] at near
  exact near.unique first

end Decimal

namespace Binary

variable {f : Format}

/-- A decimal of ordinary size is read by rounding the number that it writes. -/
theorem ofDecimal_eq (fraction : 0 < f.fractionBits) (negative : Bool) {d : Decimal}
    (low : d.digits ≠ 0 → 10 ^ (-(f.scale + 2) : ℤ) ≤ d.value)
    (high : d.value < 10 ^ (f.scale + 1)) :
    (ofDecimal negative d.digits d.exponent : Binary f) = ofOrdinal negative (d.ordinal f) := by
  by_cases zero : d.digits = 0
  · rw [Decimal.ordinal_of_zero fraction zero, ofDecimal, if_pos zero]
  · have notLarge : ¬ d.places > f.scale + 1 := by
      intro large
      have more : (10 : ℚ) ^ (f.scale + 1 : ℤ) ≤ 10 ^ (d.places - 1) :=
        zpow_le_zpow_right₀ (by norm_num) (by omega)
      have := more.trans (Decimal.le_value zero)
      rw [← zpow_natCast] at high
      push_cast at high
      linarith
    have notSmall : ¬ d.places < -(f.scale + 1) := by
      intro small
      have less : (10 : ℚ) ^ d.places ≤ 10 ^ (-(f.scale + 2) : ℤ) :=
        zpow_le_zpow_right₀ (by norm_num) (by omega)
      have := d.value_lt.trans_le less
      have := low zero
      linarith
    have counted : ((Nat.toDigits 10 d.digits).length + d.exponent : ℤ) = d.places := rfl
    simp only [ofDecimal, counted, zero, notLarge, notSmall, if_false]
    -- one of the two powers of ten is one
    split
    · rename_i below
      have top : d.exponent.toNat = 0 := by omega
      have bottom : (-d.exponent).toNat = d.exponent.natAbs := by omega
      rw [nearest, Decimal.ordinal, top, bottom, Nat.pow_zero, Nat.mul_one]
      rfl
    · have top : d.exponent.toNat = d.exponent.natAbs := by omega
      have bottom : (-d.exponent).toNat = 0 := by omega
      rw [nearest, Decimal.ordinal, top, bottom]
      rfl

/-- A place has one finite value. -/
theorem ofOrdinal_eq_finite_iff {negative : Bool} {m : Nat} {n : Fin f.infinityOrdinal} :
    ofOrdinal negative m = .finite negative n ↔ m = n := by
  unfold ofOrdinal
  split
  · rw [finite.injEq, Fin.ext_iff]
    exact and_iff_right rfl
  · constructor
    · intro same
      cases same
    · rintro rfl
      exact absurd n.isLt ‹_›

end Binary

/-! ## Four bytes by way of eight -/

namespace Format

namespace Widens

variable {f g : Format} (wide : g.Widens f)

include wide

/-- Narrowing a value rounds it. -/
theorem convert_isNearest (fraction : 0 < f.fractionBits) (negative : Bool)
    (m : Fin g.infinityOrdinal) :
    ∃ n, f.IsNearest (f.unitsIn g m) n ∧
      (Binary.finite negative m).convert f = .ofOrdinal negative n := by
  refine ⟨_, ?_, rfl⟩
  have positive : 0 < g.unitsPerOne := Nat.pow_pos (by decide)
  have near := f.nearestOrdinal_isNearest fraction (g.units m * f.unitsPerOne) positive
  have same : ((g.units m * f.unitsPerOne : Nat) : ℚ) / g.unitsPerOne = f.unitsIn g m := by
    have power : (2 : ℚ) ^ f.scale ≠ 0 := by positivity
    rw [Nat.cast_mul, cast_unitsPerOne, cast_unitsPerOne, unitsIn,
      ← pow_sub_mul_pow (2 : ℚ) wide.scale.le]
    exact mul_div_mul_right _ _ power
  rwa [same] at near

/-- A decimal in units of the narrower format. -/
theorem ordinal_isNearest (d : Decimal) :
    g.IsNearest (d.value * 2 ^ f.scale * 2 ^ (g.scale - f.scale)) (d.ordinal g) := by
  have near := d.ordinal_isNearest (Nat.zero_lt_of_lt wide.fraction)
  rwa [← pow_sub_mul_pow (2 : ℚ) wide.scale.le, mul_comm (2 ^ _), ← mul_assoc] at near

end Widens

/-- Double precision holds all that single precision does, and the middles too. -/
theorem double_widens_single : Format.double.Widens .single := ⟨by decide, by decide⟩

/-- The first value that is too large is a power of two. -/
theorem units_infinityOrdinal {f : Format} (exponent : 0 < f.exponentBits) :
    f.units f.infinityOrdinal = 2 ^ (f.fractionBits + (2 ^ f.exponentBits - 2)) := by
  have two : 2 ≤ 2 ^ f.exponentBits := Nat.pow_le_pow_right (n := 2) (by decide) exponent
  have place : f.infinityOrdinal = (2 ^ f.exponentBits - 2) * f.binade + f.binade := by
    rw [← Nat.succ_mul]
    show (2 ^ f.exponentBits - 1) * f.binade = _
    congr 1
    omega
  have positive := f.binade_pos
  rw [place, units_shift (Nat.le_refl _) (by omega), Nat.pow_add]
  rfl

/-- Powers of ten are ahead of those of two. -/
theorem two_pow_le_ten_pow {a b : Nat} (order : a ≤ b) : (2 : ℚ) ^ a ≤ 10 ^ b :=
  (pow_le_pow_left₀ (by norm_num) (by norm_num) a).trans (pow_le_pow_right₀ (by norm_num) order)

/-- Finite values of single precision and those next to them are at most its infinity. -/
theorem units_le_infinity (n : Fin single.infinityOrdinal) :
    (single.units n : ℚ) ≤ 2 ^ 128 * 2 ^ single.scale ∧
      (single.units (n + 1) : ℚ) ≤ 2 ^ 128 * 2 ^ single.scale := by
  have exponent : single.fractionBits + (2 ^ single.exponentBits - 2) = 128 + single.scale := by
    decide
  have next := single.units_strictMono.monotone (Nat.succ_le_of_lt n.isLt)
  rw [units_infinityOrdinal (by decide), exponent, Nat.pow_add] at next
  have here := (units_lt_succ n.val).le.trans next
  exact ⟨by exact_mod_cast here, by exact_mod_cast next⟩

/-- Their decimals are no further out. -/
theorem decimal_value_le (n : Fin single.infinityOrdinal) : (single.decimal n).value ≤ 2 ^ 128 := by
  have power : (0 : ℚ) < 2 ^ single.scale := by positivity
  have high := (single.decimal_isNearest (by decide) n).high
  obtain ⟨here, next⟩ := units_le_infinity n
  refine le_of_mul_le_mul_right ?_ power
  linarith

/-- And no closer to zero than half of the least value. -/
theorem le_decimal_value {n : Fin single.infinityOrdinal} (nonzero : (single.decimal n).value ≠ 0) :
    (2 ^ (single.scale + 1))⁻¹ ≤ (single.decimal n).value := by
  have positive : (0 : ℚ) < 2 ^ (single.scale + 1) := by positivity
  obtain ⟨m, succ⟩ : ∃ m, m + 1 = n.val := by
    refine ⟨n.val - 1, ?_⟩
    by_contra none
    have zero : n.val = 0 := by omega
    rw [zero, decimal, units_zero, if_pos rfl, Decimal.value, Nat.cast_zero, zero_mul] at nonzero
    exact nonzero rfl
  have low := (single.decimal_isNearest (by decide) n).low m succ
  have one : (1 : ℚ) ≤ single.units n := by
    have before : single.units m < single.units (m + 1) := units_lt_succ m
    rw [succ] at before
    exact_mod_cast Nat.succ_le_of_lt (Nat.zero_lt_of_lt before)
  have zero : (0 : ℚ) ≤ single.units m := Nat.cast_nonneg _
  rw [inv_le_iff_one_le_mul₀ positive, pow_succ]
  linarith

/-- A negative power of ten is a reciprocal. -/
theorem ten_zpow_neg (s : Nat) : (10 : ℚ) ^ (-(s + 2) : ℤ) = (10 ^ (s + 2))⁻¹ := by
  rw [zpow_neg]
  norm_cast

/-- Reading the decimal of a value of four bytes as eight bytes neither overflows nor vanishes, with
however many zeros it is written. -/
theorem ofDecimal_decimal (negative : Bool) {n : Fin single.infinityOrdinal} {d : Decimal}
    (same : d.value = (single.decimal n).value) :
    (Binary.ofDecimal negative d.digits d.exponent : Binary64) =
      Binary.ofOrdinal negative ((single.decimal n).ordinal double) := by
  have order : (2 : ℚ) ^ (single.scale + 1) ≤ 10 ^ (double.scale + 2) :=
    two_pow_le_ten_pow (by decide)
  have large : (10 : ℚ) ^ 128 < 10 ^ (double.scale + 1) :=
    pow_lt_pow_right₀ (by norm_num) (by decide)
  have near := d.ordinal_isNearest (f := double) (by decide)
  rw [same] at near
  rw [← near.unique ((single.decimal n).ordinal_isNearest (by decide))]
  apply Binary.ofDecimal_eq (by decide)
  · intro nonzero
    have other : (single.decimal n).value ≠ 0 := by
      -- neither end of the range is near what single precision has
      rw [← same, Decimal.value, mul_ne_zero_iff]
      exact ⟨Nat.cast_ne_zero.2 nonzero, by positivity⟩
    rw [ten_zpow_neg, same]
    exact (inv_anti₀ (by positivity) order).trans (le_decimal_value other)
  · rw [same]
    exact ((decimal_value_le n).trans (two_pow_le_ten_pow (Nat.le_refl _))).trans_lt large

/-- A decimal of single precision is finite in double precision. -/
theorem ordinal_decimal_lt (n : Fin single.infinityOrdinal) :
    (single.decimal n).ordinal double < double.infinityOrdinal := by
  have near := (single.decimal n).ordinal_isNearest (f := double) (by decide)
  obtain ⟨k, power⟩ := double.exists_units (w := 1) (by decide) (128 + double.scale)
  have below : (single.decimal n).value * 2 ^ double.scale ≤ double.units k := by
    rw [power, Nat.one_mul, Nat.pow_add]
    push_cast
    exact mul_le_mul_of_nonneg_right (decimal_value_le n) (by positivity)
  have top : double.units k < double.units double.infinityOrdinal := by
    rw [power, Nat.one_mul, units_infinityOrdinal (by decide)]
    exact Nat.pow_lt_pow_right (by decide) (by decide)
  exact (near.le (isNearest_units k) below).trans_lt (double.units_strictMono.lt_iff_lt.1 top)

end Format

/-- The value that comes back from the text of a value: the value of eight bytes nearest to the
decimal, narrowed to four. -/
def Binary32.reread : Binary32 → Binary32
  | .finite negative n =>
    let d := Format.single.decimal n
    (Binary.ofDecimal negative d.digits d.exponent : Binary64).convert .single
  | x => x

/-- The decimal of a value is nearest, in eight bytes, to a middle that belongs to a neighbour. -/
def Binary32.IsLost : Binary32 → Prop
  | .finite _ n => Format.IsLost .single .double n ((Format.single.decimal n).ordinal .double)
  | _ => False

namespace Binary32

/-- Reading again goes by double precision. -/
theorem reread_eq_convert (negative : Bool) (n : Fin Format.single.infinityOrdinal) :
    reread (.finite negative n) =
      (Binary.finite negative ⟨_, Format.ordinal_decimal_lt n⟩ : Binary64).convert .single := by
  simp only [reread]
  rw [Format.ofDecimal_decimal negative rfl, Binary.ofOrdinal,
    dif_pos (Format.ordinal_decimal_lt n)]

/-- What comes back is the value nearest to what the decimal is read as. -/
theorem exists_reread (negative : Bool) (n : Fin Format.single.infinityOrdinal) :
    ∃ m, Format.single.IsNearest
        (Format.single.unitsIn .double ((Format.single.decimal n).ordinal .double)) m ∧
      reread (.finite negative n) = .ofOrdinal negative m := by
  obtain ⟨m, near, read⟩ := Format.double_widens_single.convert_isNearest (by decide) negative
    ⟨_, Format.ordinal_decimal_lt n⟩
  exact ⟨m, near, (reread_eq_convert negative n).trans read⟩

/-- A value comes back as it was unless it is lost to a neighbour. -/
theorem reread_eq_self_iff (x : Binary32) : x.reread = x ↔ ¬ x.IsLost := by
  -- only finite values are written as decimals
  cases x with
  | nan => exact iff_of_true rfl not_false
  | infinite negative => exact iff_of_true rfl not_false
  | finite negative n =>
    obtain ⟨m, near, read⟩ := exists_reread negative n
    have here := Format.single.decimal_isNearest (by decide) n
    have there := Format.double_widens_single.ordinal_isNearest (Format.single.decimal n)
    have again := Format.double_widens_single.isNearest_iff there here
    rw [read, Binary.ofOrdinal_eq_finite_iff, IsLost, ← again]
    constructor
    · rintro rfl
      exact near
    · exact near.unique

/-- A value with an even place comes back. -/
theorem not_isLost_of_even {negative : Bool} {n : Fin Format.single.infinityOrdinal}
    (even : n.val % 2 = 0) : ¬ IsLost (.finite negative n) := by
  intro lost
  have odd : n.val % 2 = 1 := lost.1
  omega

/-- A value that is lost comes back as one of its neighbours, the even one. -/
theorem reread_of_isLost {negative : Bool} {n : Fin Format.single.infinityOrdinal}
    (lost : IsLost (.finite negative n)) :
    ∃ m, (m + 1 = n.val ∨ m = n + 1) ∧ m % 2 = 0 ∧
      reread (.finite negative n) = .ofOrdinal negative m := by
  obtain ⟨m, near, read⟩ := exists_reread negative n
  obtain ⟨k, beside, nearest⟩ := Format.IsLost.neighbour lost
  have odd : n.val % 2 = 1 := lost.1
  refine ⟨k, beside, by omega, ?_⟩
  rw [read, near.unique nearest]

end Binary32

end EmuHost
