import EmuHost.Proofs.PanelRounding

/-!
# The far edge of the screen

The distance of a point from the corner of the screen may be rounded up to the whole size of the
screen. This file shows that it is not in a client area of less than `2 ^ 23` (`Panel.Fits.short`).

A point before the far edge is a multiple of the step of the size (or smaller than the size, and
then there is nothing to show), and so is twice the corner, so the distance falls short of the size
by half a step at least. If it does so by half a step only, it is in the middle between the size
and the value before, and the corner is an odd number of half steps. But a whole size of less than
`2 ^ 23` is an even number of steps, so then the size is an odd number of steps, and the middle goes
to the even neighbour, which is the other one.

## Key results

- `Format.IsNearest.multiple`: how a multiple of a step is rounded
- `Format.not_isNearest_of_short`: what falls short of a value by half a step
- `Panel.Fits.short`: distances in a small area
-/

namespace EmuHost

namespace Format

variable {f : Format}

/-- A multiple of the step of a binade is a value, or it rounds to a multiple of the next step. -/
theorem IsNearest.multiple {shift i n : Nat} (near : f.IsNearest (i * 2 ^ shift) n) :
    (i ≤ 2 * f.binade ∧ f.units n = i * 2 ^ shift) ∨ 2 ^ (shift + 1) ∣ f.units n := by
  rcases Nat.lt_or_ge (2 * f.binade) i with large | small
  · right
    -- it does not lie below the start of the next binade
    have start := units_shift (f := f) (t := 2 * f.binade) (by omega) (le_refl _) shift
    have order : ((f.units (shift * f.binade + 2 * f.binade) : Nat) : ℚ) ≤ i * 2 ^ shift := by
      rw [start]
      exact_mod_cast Nat.mul_le_mul_right (2 ^ shift) large.le
    have past := (isNearest_units _).le near order
    refine two_pow_dvd_units (t := f.binade) (.inl (le_refl _)) ?_
    rw [Nat.succ_mul]
    omega
  · left
    obtain ⟨k, same⟩ := f.exists_units small shift
    have exact := f.isNearest_units k
    rw [same] at exact
    push_cast at exact
    rw [near.unique exact]
    exact ⟨small, same⟩

/-- With a fraction, whether a place is even shows in the steps of its binade. -/
theorem ordinal_mod_two (fraction : 0 < f.fractionBits) (shift t : Nat) :
    (shift * f.binade + t) % 2 = t % 2 := by
  rw [Nat.add_mod, Nat.mul_mod, binade_even fraction, Nat.mul_zero, Nat.zero_mod, Nat.zero_add,
    Nat.mod_mod]

/-- What falls short of a value by half a step at least does not round to it, if it is not the
middle before a value of an even number of steps. -/
theorem not_isNearest_of_short (fraction : 0 < f.fractionBits) {shift t point gap : Nat}
    (low : f.binade ≤ t ∨ shift = 0) (high : t < 2 * f.binade) (positive : 0 < t)
    (even : t % 2 = 0 → gap % 2 = 0)
    (short : 2 * point < gap + 2 * t) {q : ℚ} (exact : 2 * q = (2 * point - gap : ℚ) * 2 ^ shift) :
    ¬f.IsNearest q (shift * f.binade + t) := by
  intro near
  obtain ⟨m, succ⟩ : ∃ m, m + 1 = shift * f.binade + t := ⟨shift * f.binade + t - 1, by omega⟩
  have power : (0 : ℚ) < 2 ^ shift := by positivity
  have here : (f.units (shift * f.binade + t) : ℚ) = t * 2 ^ shift := by
    exact_mod_cast units_multiple low high.le
  have before : (t * 2 ^ shift : ℚ) ≤ f.units m + 2 ^ shift := by
    exact_mod_cast le_units_pred low high.le succ
  have middle := near.low m succ
  rw [here, exact] at middle
  have bound : ((2 * t : ℚ) - 1) * 2 ^ shift ≤ (2 * point - gap) * 2 ^ shift := by linarith
  have cast : (2 * t : ℚ) ≤ 2 * point - gap + 1 := by
    have := le_of_mul_le_mul_right bound power
    linarith
  have whole : 2 * t + gap ≤ 2 * point + 1 := by
    have : (2 * t + gap : ℚ) ≤ 2 * point + 1 := by linarith
    exact_mod_cast this
  -- so it is the middle, which belongs to the neighbour
  have half : 2 * t + gap = 2 * point + 1 := by omega
  have half' : (2 * t + gap : ℚ) = 2 * point + 1 := by exact_mod_cast half
  have same : (f.units m + f.units (shift * f.binade + t) : ℚ) = 2 * q := by
    apply le_antisymm
    · rw [here, exact]
      exact middle
    · rw [here, exact]
      have : (2 * point - gap : ℚ) = 2 * t - 1 := by linarith
      rw [this]
      linarith
  have owned := near.even (.inl ⟨m, succ, same⟩)
  rw [ordinal_mod_two fraction] at owned
  have := even owned
  omega

end Format

end EmuHost

namespace EmuHost.Panel

open Binary

variable {c s p : Binary32} {w l : Nat} {corner point distance : ℤ}

/-- A size below `2 ^ 23` is an even multiple of the step of any value that is not greater. -/
theorem exists_even_multiple {shift t : Nat} (small : w < 2 ^ 23) (low : 2 ^ 23 ≤ t ∨ shift = 0)
    (order : t * 2 ^ shift ≤ w * 2 ^ 149) : shift < 149 ∧
      w * 2 ^ 149 = 2 * (w * 2 ^ (148 - shift)) * 2 ^ shift := by
  have less : shift < 149 := by
    by_contra large
    have power : 2 ^ 149 ≤ 2 ^ shift := Nat.pow_le_pow_right (by decide) (not_lt.mp large)
    have started : 2 ^ 23 ≤ t := low.resolve_right (by omega)
    have := Nat.mul_le_mul started power
    omega
  refine ⟨less, ?_⟩
  have split : 2 ^ 149 = 2 * 2 ^ (148 - shift) * 2 ^ shift := by
    rw [← Nat.pow_succ', ← Nat.pow_add]
    congr 1
    omega
  rw [split]
  ring

/-- What a size of the screen leaves of the area, rounded, is a multiple of the step of the size: an
even one if the size is an even number of steps. In any case it can be halved. -/
theorem exists_gap {shift t : Nat} (small : w < 2 ^ 23) (positive : 0 < w)
    (hasClient : c.HasUnits (w * unit)) (hasSize : s.HasUnits (t * 2 ^ shift : Nat))
    (low : 2 ^ 23 ≤ t ∨ shift = 0) (high : t < 2 * 2 ^ 23)
    (order : ((t * 2 ^ shift : Nat) : ℤ) ≤ w * unit) :
    ∃ n gap, (c - s).HasUnits (Format.single.units n) ∧ Format.single.units n = gap * 2 ^ shift ∧
      (t % 2 = 0 → gap % 2 = 0) ∧ 2 ∣ Format.single.units n := by
  have client : (w : ℤ) * unit = ((w * 2 ^ 149 : Nat) : ℤ) := by
    rw [unit_eq]
    push_cast
    rfl
  rw [client] at hasClient order
  obtain ⟨-, even⟩ := exists_even_multiple small low (by exact_mod_cast order)
  have many : shift = 0 → 2 ^ 148 ≤ w * 2 ^ (148 - shift) := by
    rintro rfl
    exact Nat.le_mul_of_pos_left _ positive
  generalize w * 2 ^ (148 - shift) = h at even many
  obtain ⟨i, rest⟩ : ∃ i, 2 * h = t + i := by
    refine Nat.exists_eq_add_of_le (Nat.le_of_mul_le_mul_right ?_ (Nat.two_pow_pos shift))
    rw [← even]
    exact_mod_cast order
  have exact : (((w * 2 ^ 149 : Nat) : ℤ) - ((t * 2 ^ shift : Nat) : ℤ) : ℚ) = i * 2 ^ shift := by
    rw [even, rest]
    push_cast
    ring
  have difference := sub_rounds single_fraction hasClient hasSize
  rw [exact] at difference
  have most : (i * 2 ^ shift : ℚ) ≤ ((w * 2 ^ 149 : Nat) : ℤ) := by
    rw [← exact, sub_le_self_iff]
    exact_mod_cast Nat.zero_le _
  obtain ⟨rounded, hasRounded, -⟩ :=
    difference.between hasUnits_zero hasClient (by push_cast; positivity) most
  obtain ⟨n, near, rfl⟩ := difference.exists_ordinal (by positivity) hasRounded
  rcases near.multiple with ⟨few, same⟩ | ⟨e, same⟩
  · -- the difference is a value, and it is small, so the step is not the least one
    refine ⟨n, i, hasRounded, same, by omega, ?_⟩
    cases shift with
    | zero =>
      have := many rfl
      rw [single_binade] at few
      omega
    | succ shift =>
      rw [same, Nat.pow_succ, ← Nat.mul_assoc]
      -- either the difference is a value itself or it was rounded in the next binade
      exact Nat.dvd_mul_left 2 _
  · -- it was rounded to a multiple of the next step
    rw [Nat.pow_succ] at same
    refine ⟨n, 2 * e, hasRounded, ?_, by omega, ?_⟩
    · rw [same]
      ring
    · rw [same]
      exact Dvd.intro (2 ^ shift * e) (by ring)

/-- Halving what is left is exact, so the corner is a multiple of half the step. -/
theorem exists_margin {shift t : Nat} (small : w < 2 ^ 23) (positive : 0 < w)
    (hasClient : c.HasUnits (w * unit)) (hasSize : s.HasUnits (t * 2 ^ shift : Nat))
    (low : 2 ^ 23 ≤ t ∨ shift = 0) (high : t < 2 * 2 ^ 23)
    (order : ((t * 2 ^ shift : Nat) : ℤ) ≤ w * unit) :
    ∃ k gap, ((c - s) * Scalar.ofRat (1 / 2)).HasUnits (Format.single.units k) ∧
      2 * Format.single.units k = gap * 2 ^ shift ∧ (t % 2 = 0 → gap % 2 = 0) := by
  obtain ⟨n, gap, hasGap, same, parity, even⟩ :=
    exists_gap small positive hasClient hasSize low high order
  obtain ⟨k, half⟩ := Format.exists_half even
  obtain ⟨j, ordinal⟩ := hasGap.exists_ordinal (by omega)
  have finite : k < Format.single.infinityOrdinal := by
    obtain rfl : n = j := Format.units_strictMono.injective (by exact_mod_cast ordinal)
    have : k ≤ j := (Format.units_strictMono (f := .single)).le_iff_le.mp (by omega)
    exact this.trans_lt j.isLt
  refine ⟨k, gap, ?_, half.trans same, parity⟩
  refine (halved_rounds hasGap).exact (hasUnits_finite ⟨k, finite⟩) ?_
  rw [div_eq_iff two_ne_zero, mul_comm]
  exact_mod_cast half.symm

/-- A point inside is closer to the corner than the size, also when the distance is rounded, if the
size does not pass that of a small area. -/
theorem short_of_le (small : w < 2 ^ 23) (positive : 0 < w) (hasClient : c.HasUnits (w * unit))
    (hasSize : s.HasUnits (Format.single.units l)) (order : (Format.single.units l : ℤ) ≤ w * unit)
    (hasCorner : ((c - s) * Scalar.ofRat (1 / 2)).HasUnits corner)
    (inside : IsInside p ((c - s) * Scalar.ofRat (1 / 2)) s corner (Format.single.units l) point
      distance) : distance < Format.single.units l := by
  obtain ⟨shift, t, high, low, place⟩ := Format.single.exists_multiple l
  have size : Format.single.units l = t * 2 ^ shift := by
    rw [place, Format.units_multiple low high.le]
  have power := Nat.two_pow_pos shift
  rw [size] at order hasSize
  obtain ⟨k, gap, hasMargin, margin, parity⟩ := exists_margin small positive hasClient hasSize
    (by rwa [single_binade] at low) (by rwa [single_binade] at high) order
  obtain rfl := hasCorner.unique hasMargin
  obtain ⟨value, notBefore, notPast, rounded, nonneg, most⟩ := inside
  obtain ⟨n, rfl⟩ := value.exists_ordinal (by omega)
  have difference := sub_rounds single_fraction value hasCorner
  have above : (0 : ℚ) ≤
      ((Format.single.units n : Nat) : ℤ) - ((Format.single.units k : Nat) : ℤ) := by
    rw [sub_nonneg]
    exact_mod_cast notBefore
  obtain ⟨d, near, rfl⟩ := difference.exists_ordinal above rounded
  refine lt_of_le_of_ne most fun full => ?_
  obtain rfl : d = l := Format.units_strictMono.injective (by exact_mod_cast full)
  -- a point in front of the size needs no rounding, one behind it is a multiple of its step
  rcases Nat.lt_or_ge n d with short | far
  · -- the point itself is less than the size
    have := near.le (Format.isNearest_units n) (by
      have : (0 : ℚ) ≤ Format.single.units k := Nat.cast_nonneg _
      push_cast
      linarith)
    omega
  · obtain ⟨e, multiple⟩ := Format.two_pow_dvd_units low (place ▸ far)
    rw [mul_comm] at multiple
    rw [multiple, size] at notPast
    -- counted in half steps, the point is short of the far edge by one at least
    have less : (2 * e) * 2 ^ shift < (gap + 2 * t) * 2 ^ shift := by
      rw [Nat.add_mul, ← margin, Nat.mul_assoc, Nat.mul_assoc]
      omega
    have short : 2 * e < gap + 2 * t := Nat.lt_of_mul_lt_mul_right less
    have halves : (2 * Format.single.units k : ℚ) = gap * 2 ^ shift := by exact_mod_cast margin
    have exact : (2 : ℚ) *
        (((Format.single.units n : Nat) : ℤ) - ((Format.single.units k : Nat) : ℤ)) =
          (2 * e - gap) * 2 ^ shift := by
      rw [multiple]
      push_cast
      linarith
    have started : 0 < t := by
      apply Nat.pos_of_ne_zero
      rintro rfl
      rw [multiple] at notBefore
      omega
    rw [place] at near
    exact Format.not_isNearest_of_short single_fraction low high started parity short exact near

/-- A small area has an even ordinal, and a step that can be halved. -/
theorem exists_even_place {n : Nat} (small : w < 2 ^ 23) (positive : 0 < w)
    (client : Format.single.units n = w * 2 ^ 149) :
    ∃ shift t, n = (shift + 1) * Format.single.binade + t ∧ Format.single.binade ≤ t ∧
      t < 2 * Format.single.binade ∧ t % 2 = 0 := by
  obtain ⟨shift, t, high, low, place⟩ := Format.single.exists_multiple n
  have size : Format.single.units n = t * 2 ^ shift := by
    rw [place, Format.units_multiple low high.le]
  rw [size] at client
  obtain ⟨less, even⟩ := exists_even_multiple small (by rwa [single_binade] at low) client.le
  have steps : t = 2 * (w * 2 ^ (148 - shift)) := by
    rw [even] at client
    exact Nat.eq_of_mul_eq_mul_right (Nat.two_pow_pos shift) client
  cases shift with
  | zero =>
    rw [single_binade] at high
    omega
  | succ shift => exact ⟨shift, t, place, low.resolve_right (by omega), high, by omega⟩

/-- A power of two that is not too large is a value. -/
theorem exists_two_pow {i n : Nat} (finite : n < Format.single.infinityOrdinal)
    (small : 2 ^ i ≤ Format.single.units n) : ∃ x : Binary32, x.HasUnits (2 ^ i : Nat) := by
  obtain ⟨k, same⟩ := Format.single.exists_units (w := 1) (by decide) i
  rw [Nat.one_mul] at same
  rw [← same] at small ⊢
  have order : k ≤ n := Format.units_strictMono.le_iff_le.mp small
  exact ⟨_, hasUnits_finite ⟨k, order.trans_lt finite⟩⟩

/-- The same, if the size has been rounded up past that of the area. -/
theorem short_of_next {n : Nat} (small : w < 2 ^ 23) (positive : 0 < w)
    (client : Format.single.units n = w * 2 ^ 149) (finite : n < Format.single.infinityOrdinal)
    (hasClient : c.HasUnits (Format.single.units n))
    (hasSize : s.HasUnits (Format.single.units (n + 1)))
    (hasCorner : ((c - s) * Scalar.ofRat (1 / 2)).HasUnits corner)
    (inside : IsInside p ((c - s) * Scalar.ofRat (1 / 2)) s corner (Format.single.units (n + 1))
      point distance) : distance < Format.single.units (n + 1) := by
  obtain ⟨shift, t, place, low, high, even⟩ := exists_even_place small positive client
  have here : Format.single.units n = t * 2 ^ (shift + 1) := by
    rw [place, Format.units_multiple (.inl low) high.le]
  have next : Format.single.units (n + 1) = Format.single.units n + 2 ^ (shift + 1) := by
    rw [here, place, Nat.add_assoc, Format.units_multiple (.inl (by omega)) (by omega),
      Nat.succ_mul]
  have step : 2 ^ (shift + 1) ≤ Format.single.units n := by
    rw [here]
    exact Nat.le_mul_of_pos_left _ ((Format.binade_pos (f := .single)).trans_le low)
  have double : 2 ^ (shift + 1) = 2 * 2 ^ shift := Nat.pow_succ'
  obtain ⟨x, hasStep⟩ := exists_two_pow finite step
  obtain ⟨y, hasHalf⟩ := exists_two_pow (i := shift) finite (by omega)
  -- the corner lies half a step before the origin
  have gap : (c - s).HasUnits (-(2 ^ (shift + 1) : Nat)) := by
    refine (sub_rounds single_fraction hasClient hasSize).exact hasStep.neg ?_
    rw [next]
    push_cast
    ring
  have margin : ((c - s) * Scalar.ofRat (1 / 2)).HasUnits (-(2 ^ shift : Nat)) := by
    refine (halved_rounds gap).exact hasHalf.neg ?_
    rw [double]
    push_cast
    ring
  obtain rfl := hasCorner.unique margin
  obtain ⟨value, notBefore, notPast, rounded, nonneg, most⟩ := inside
  have before : point ≤ Format.single.units n := by
    by_contra past
    obtain ⟨k, rfl⟩ := value.exists_ordinal (by omega)
    have later : n < k := (Format.units_strictMono (f := .single)).lt_iff_lt.mp (by omega)
    have : Format.single.units (n + 1) ≤ Format.single.units k :=
      Format.units_strictMono.monotone later
    omega
  -- at most half a step past the area, which goes back to it
  have middle : Format.single.IsNearest (Format.single.units n + 2 ^ shift : ℚ) n := by
    have sum : (Format.single.units (n + 1) : ℚ) = Format.single.units n + 2 * 2 ^ shift := by
      rw [next, double]
      push_cast
      ring
    have power : (0 : ℚ) < 2 ^ shift := by positivity
    refine ⟨?_, ?_, fun _ => ?_⟩
    · rintro m rfl
      have : (Format.single.units m : ℚ) < Format.single.units (m + 1) :=
        Nat.cast_lt.mpr (Format.units_lt_succ m)
      linarith
    · rw [sum]
      linarith
    · rw [place, Format.ordinal_mod_two single_fraction, even]
  have difference := sub_rounds single_fraction value margin
  have above : (0 : ℚ) ≤ point - (-(2 ^ shift : Nat) : ℤ) := by
    rw [sub_nonneg]
    exact_mod_cast notBefore
  obtain ⟨d, near, rfl⟩ := difference.exists_ordinal above rounded
  have order : d ≤ n := near.le middle (by
    have : (point : ℚ) ≤ Format.single.units n := by exact_mod_cast before
    push_cast
    linarith)
  have := (Format.units_strictMono (f := .single)).monotone order
  have := Format.units_lt_succ (f := .single) n
  omega

/-- In a small area a point inside is closer to the corner than the size, also when the distance is
rounded. -/
theorem Fits.short {client size : ℤ} (fits : Fits c s client size) (small : w < 2 ^ 23)
    (positive : 0 < w) (same : client = w * unit)
    (hasCorner : ((c - s) * Scalar.ofRat (1 / 2)).HasUnits corner)
    (inside : IsInside p ((c - s) * Scalar.ofRat (1 / 2)) s corner size point distance) :
    distance < size := by
  obtain ⟨n, finite, client', most⟩ := fits.notLarge
  obtain ⟨l, rfl⟩ := fits.hasSize.exists_ordinal fits.nonneg
  have hasClient := fits.hasClient
  -- the size is either one of the values up to the area, or the one after it
  rcases le_or_gt ((Format.single.units l : Nat) : ℤ) client with order | past
  · rw [same] at hasClient order
    exact short_of_le small positive hasClient fits.hasSize order hasCorner inside
  · obtain rfl := client'
    have ordinal : (l : Nat) = n + 1 := by
      have above : n < l := (Format.units_strictMono (f := .single)).lt_iff_lt.mp (by omega)
      have below : (l : Nat) ≤ n + 1 :=
        (Format.units_strictMono (f := .single)).le_iff_le.mp (by omega)
      omega
    rw [ordinal] at inside ⊢
    refine short_of_next small positive ?_ (by omega) hasClient (ordinal ▸ fits.hasSize) hasCorner
      inside
    rw [unit_eq] at same
    exact_mod_cast same

end EmuHost.Panel
