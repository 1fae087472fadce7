import EmuHost.Binary.Decimal
import Mathlib.Tactic.Linarith
import Mathlib.Tactic.LinearCombination
import Mathlib.Tactic.Ring

/-!
# Nearest values

Rounding a quotient of units to a format: the result is the one value whose neighbourhood holds the
quotient (`Format.IsNearest`), where a neighbourhood ends at the middles between neighbouring values
and owns an end only if its own place is even. The result therefore depends on the quotient alone
and not on how it is written.

A value that is rounded to a wider format first and to its own format then stays in the
neighbourhood of the value that it should become, since the wider format has the middles; it goes
astray only if it becomes a middle that is owned by the neighbour.

## Key results

- `Format.nearestOrdinal_isNearest`, `Format.IsNearest.unique`: what rounding computes
- `Format.Widens.isNearest_iff`, `Format.IsLost.neighbour`: rounding twice
-/

namespace EmuHost

/-- Half a unit at most lies between a quotient and the whole number nearest to it; where it is half
a unit, the whole number is even. -/
theorem divNearest_bounds (n : Nat) {d : Nat} (positive : 0 < d) :
    2 * divNearest n d * d ≤ 2 * n + d ∧ 2 * n ≤ 2 * divNearest n d * d + d ∧
      (2 * divNearest n d * d = 2 * n + d ∨ 2 * n = 2 * divNearest n d * d + d →
        divNearest n d % 2 = 0) := by
  have split : d * (n / d) + n % d = n := Nat.div_add_mod n d
  have small : n % d < d := Nat.mod_lt n positive
  have whole : 2 * (n / d) * d = 2 * (d * (n / d)) := by ring
  have next : 2 * (n / d + 1) * d = 2 * (d * (n / d)) + 2 * d := by ring
  unfold divNearest
  dsimp only
  -- the remainder is less than half a divisor, more, or exactly half and then the quotient decides
  split
  · omega
  · split
    · omega
    · rcases Nat.mod_two_eq_zero_or_one (n / d) with even | odd
      · rw [even, Nat.add_zero]
        omega
      · rw [odd]
        omega

namespace Format

variable {f : Format}

/-- There are values in a binade. -/
theorem binade_pos : 0 < f.binade := Nat.pow_pos (by decide)

/-! ## Units -/

/-- In each binade the values are the multiples of a power of two. -/
theorem units_shift_of_lt {t : Nat} (low : f.binade ≤ t) (high : t < 2 * f.binade) (shift : Nat) :
    f.units (shift * f.binade + t) = t * 2 ^ shift := by
  have positive := f.binade_pos
  have quotient : (shift * f.binade + t) / f.binade = shift + 1 := by
    rw [Nat.add_comm, Nat.add_mul_div_right _ _ positive, Nat.div_eq_of_lt_le (k := 1)] <;> omega
  have remainder : (shift * f.binade + t) % f.binade = t - f.binade := by
    rw [Nat.add_comm, Nat.add_mul_mod_self_right, Nat.mod_eq_sub_mod low, Nat.mod_eq_of_lt]
    omega
  have above : ¬ shift * f.binade + t < f.binade := by
    have := Nat.zero_le (shift * f.binade)
    omega
  rw [units, if_neg above, quotient, remainder, Nat.add_sub_cancel' low]
  rfl

/-- The end of a binade is the start of the next one. -/
theorem units_shift {t : Nat} (low : f.binade ≤ t) (high : t ≤ 2 * f.binade) (shift : Nat) :
    f.units (shift * f.binade + t) = t * 2 ^ shift := by
  rcases Nat.lt_or_eq_of_le high with high | rfl
  · exact units_shift_of_lt low high shift
  · have positive := f.binade_pos
    have next := f.units_shift_of_lt (Nat.le_refl _) (by omega) (shift + 1)
    rw [Nat.add_mul, Nat.one_mul, Nat.add_assoc, ← Nat.two_mul] at next
    rw [next, Nat.pow_succ]
    ring

/-- The least values are the units themselves. -/
theorem units_of_le {n : Nat} (small : n ≤ 2 * f.binade) : f.units n = n := by
  rcases Nat.lt_or_ge n f.binade with below | above
  · rw [units, if_pos below]
  · have := f.units_shift above small 0
    rwa [Nat.zero_mul, Nat.zero_add, Nat.pow_zero, Nat.mul_one] at this

/-- A value is a unit or lies in a binade. -/
theorem place (f : Format) (n : Nat) :
    n < f.binade ∨ ∃ shift t, f.binade ≤ t ∧ t < 2 * f.binade ∧ n = shift * f.binade + t := by
  have positive := f.binade_pos
  rcases Nat.lt_or_ge n f.binade with below | above
  · exact .inl below
  · have split := Nat.div_add_mod n f.binade
    have small := Nat.mod_lt n positive
    have one : 1 ≤ n / f.binade := (Nat.one_le_div_iff positive).2 above
    obtain ⟨shift, next⟩ := Nat.exists_eq_add_of_le' one
    refine .inr ⟨shift, f.binade + n % f.binade, by omega, by omega, ?_⟩
    rw [next] at split
    calc n = f.binade * (shift + 1) + n % f.binade := split.symm
      _ = shift * f.binade + (f.binade + n % f.binade) := by ring

/-- Each place is further out than the one before. -/
theorem units_lt_succ (n : Nat) : f.units n < f.units (n + 1) := by
  -- below the first two binades the step is one, behind them it is the shift
  rcases f.place n with below | ⟨shift, t, low, high, rfl⟩
  · rw [units_of_le (by omega), units_of_le (by omega)]
    omega
  · rw [Nat.add_assoc, units_shift low (by omega), units_shift (by omega) (by omega)]
    exact Nat.mul_lt_mul_of_pos_right (Nat.lt_succ_self t) (Nat.two_pow_pos shift)

/-- So units follow places. -/
theorem units_strictMono : StrictMono f.units := strictMono_nat_of_lt_succ units_lt_succ

/-- A number of units that needs few enough binary digits is a value. -/
theorem exists_units {w : Nat} (small : w ≤ 2 * f.binade) (j : Nat) :
    ∃ k, f.units k = w * 2 ^ j := by
  induction j generalizing w with
  | zero => exact ⟨w, by rw [units_of_le small, Nat.pow_zero, Nat.mul_one]⟩
  | succ j ih =>
    rcases Nat.lt_or_ge w f.binade with below | above
    · obtain ⟨k, same⟩ := ih (w := 2 * w) (by omega)
      refine ⟨k, ?_⟩
      rw [same, Nat.pow_succ]
      ring
    · exact ⟨_, units_shift above small (j + 1)⟩

/-- Twice the middle between two neighbouring values needs two binary digits more. -/
theorem exists_middle (f : Format) (n : Nat) :
    ∃ w j, w ≤ 4 * f.binade ∧ f.units n + f.units (n + 1) = w * 2 ^ j := by
  rcases f.place n with below | ⟨shift, t, low, high, rfl⟩
  · refine ⟨2 * n + 1, 0, by omega, ?_⟩
    rw [units_of_le (by omega), units_of_le (by omega)]
    omega
  · refine ⟨2 * t + 1, shift, by omega, ?_⟩
    rw [Nat.add_assoc, units_shift low (by omega), units_shift (by omega) (by omega)]
    ring

/-! ## Rounding -/

/-- A number of units lies in the neighbourhood of the `n`-th value: between the middles that the
value has with its neighbours, and on a middle only if `n` is even. -/
structure IsNearest (f : Format) (q : ℚ) (n : Nat) : Prop where
  low : ∀ m, m + 1 = n → (f.units m + f.units n : ℚ) ≤ 2 * q
  high : 2 * q ≤ (f.units n + f.units (n + 1) : ℚ)
  even : (∃ m, m + 1 = n ∧ (f.units m + f.units n : ℚ) = 2 * q) ∨
    2 * q = (f.units n + f.units (n + 1) : ℚ) → n % 2 = 0

/-- Neighbourhoods lie in the order of their values and do not overlap. -/
theorem IsNearest.le {q r : ℚ} {m n : Nat} (left : f.IsNearest q m) (right : f.IsNearest r n)
    (below : q ≤ r) : m ≤ n := by
  -- if they were in the other order, the neighbour below would be shared
  by_contra above
  rw [Nat.not_le] at above
  obtain ⟨k, rfl⟩ : ∃ k, m = k + 1 := ⟨m - 1, by omega⟩
  have order : (f.units n : ℚ) ≤ f.units k :=
    Nat.cast_le.2 (f.units_strictMono.monotone (by omega))
  have next : (f.units (n + 1) : ℚ) ≤ f.units (k + 1) :=
    Nat.cast_le.2 (f.units_strictMono.monotone (by omega))
  have low := left.low k rfl
  have high := right.high
  -- both own the same middle, but only one of two neighbours is even
  have same : f.units n = f.units k := by
    rw [← Nat.cast_inj (R := ℚ)]
    linarith
  have neighbours : n = k := f.units_strictMono.injective same
  subst neighbours
  have even := left.even (.inl ⟨n, rfl, by linarith⟩)
  have odd := right.even (.inr (by linarith))
  omega

/-- A number has one nearest place. -/
theorem IsNearest.unique {q : ℚ} {m n : Nat} (left : f.IsNearest q m) (right : f.IsNearest q n) :
    m = n :=
  Nat.le_antisymm (left.le right (le_refl q)) (right.le left (le_refl q))

/-! ### Multiples of a step -/

/-- So many steps of `2 ^ shift` units are nearest to a number of units among all multiples of the
step, an even number of steps where two are equally near. -/
structure IsMultiple (q : ℚ) (shift t : Nat) : Prop where
  low : (2 * t * 2 ^ shift : ℚ) ≤ 2 * q + 2 ^ shift
  high : 2 * q ≤ (2 * t * 2 ^ shift + 2 ^ shift : ℚ)
  even : (2 * t * 2 ^ shift : ℚ) = 2 * q + 2 ^ shift ∨
    2 * q = (2 * t * 2 ^ shift + 2 ^ shift : ℚ) → t % 2 = 0

/-- Dividing with rounding finds the nearest multiple of a step. -/
theorem divNearest_isMultiple (num : Nat) {den : Nat} (positive : 0 < den) (shift : Nat) :
    IsMultiple (num / den) shift (divNearest num (den * 2 ^ shift)) := by
  obtain ⟨below, above, even⟩ :=
    divNearest_bounds num (d := den * 2 ^ shift) (Nat.mul_pos positive (Nat.two_pow_pos shift))
  have divisor : (0 : ℚ) < den := Nat.cast_pos.2 positive
  obtain ⟨q, quotient⟩ : ∃ q : ℚ, (num : ℚ) = q * den :=
    ⟨num / den, (div_mul_cancel₀ _ divisor.ne').symm⟩
  -- over the common divisor all is about whole numbers again
  rw [quotient, mul_div_assoc, div_self divisor.ne', mul_one]
  generalize divNearest num (den * 2 ^ shift) = t at below above even ⊢
  refine ⟨?_, ?_, ?_⟩
  · have cast : (2 * t * (den * 2 ^ shift) : ℚ) ≤ 2 * num + den * 2 ^ shift := by
      exact_mod_cast below
    rw [quotient] at cast
    apply le_of_mul_le_mul_right _ divisor
    linarith
  · have cast : (2 * num : ℚ) ≤ 2 * t * (den * 2 ^ shift) + den * 2 ^ shift := by
      exact_mod_cast above
    rw [quotient] at cast
    apply le_of_mul_le_mul_right _ divisor
    linarith
  · rintro (same | same)
    · apply even
      left
      rw [← Nat.cast_inj (R := ℚ)]
      push_cast
      rw [quotient]
      linear_combination (den : ℚ) * same
    · apply even
      right
      rw [← Nat.cast_inj (R := ℚ)]
      push_cast
      rw [quotient]
      linear_combination (den : ℚ) * same

/-- A step suits a number of units: it is the step of the binade that the number lies in, or a unit
for what lies before the second binade. -/
structure Suits (f : Format) (q : ℚ) (shift : Nat) : Prop where
  high : q < 2 * f.binade * 2 ^ shift
  low : (f.binade * 2 ^ shift : ℚ) ≤ q ∨ shift = 0

/-- The exponent of a quotient says which step suits it. -/
theorem suits_quotient (num : Nat) {den : Nat} (positive : 0 < den) :
    f.Suits (num / den) ((num / den).log2 - f.fractionBits) := by
  generalize exponent : (num / den).log2 = k
  generalize step : k - f.fractionBits = shift
  have divisor : (0 : ℚ) < den := Nat.cast_pos.2 positive
  constructor
  · have small : num < 2 ^ (k + 1) * den := by
      rw [← Nat.div_lt_iff_lt_mul positive, ← exponent]
      exact Nat.lt_log2_self
    have wide : 2 ^ (k + 1) ≤ 2 * f.binade * 2 ^ shift := by
      show 2 ^ (k + 1) ≤ 2 * 2 ^ f.fractionBits * 2 ^ shift
      rw [← Nat.pow_succ', ← Nat.pow_add]
      exact Nat.pow_le_pow_right (by decide) (by omega)
    rw [div_lt_iff₀ divisor]
    exact_mod_cast small.trans_le (Nat.mul_le_mul_right den wide)
  · rcases Nat.eq_zero_or_pos shift with zero | past
    · exact .inr zero
    · left
      have power : f.binade * 2 ^ shift = 2 ^ k := by
        show 2 ^ f.fractionBits * 2 ^ shift = 2 ^ k
        rw [← Nat.pow_add]
        congr 1
        omega
      have nonzero : num / den ≠ 0 := by
        intro zero
        rw [zero, Nat.log2_zero] at exponent
        omega
      have passed : f.binade * 2 ^ shift * den ≤ num := by
        rw [power, ← Nat.le_div_iff_mul_le positive, ← exponent]
        exact Nat.log2_self_le nonzero
      rw [le_div_iff₀ divisor]
      exact_mod_cast passed

/-- A multiple of a step stands at the place that many steps behind the binade. -/
theorem units_multiple {shift t : Nat} (low : f.binade ≤ t ∨ shift = 0)
    (high : t ≤ 2 * f.binade) : f.units (shift * f.binade + t) = t * 2 ^ shift := by
  rcases low with low | rfl
  · exact units_shift low high shift
  · rw [Nat.zero_mul, Nat.zero_add, units_of_le high, Nat.pow_zero, Nat.mul_one]

/-- The next value is one step away at least. -/
theorem le_units_succ {shift t : Nat} (low : f.binade ≤ t ∨ shift = 0)
    (high : t ≤ 2 * f.binade) : (t + 1) * 2 ^ shift ≤ f.units (shift * f.binade + t + 1) := by
  have positive := f.binade_pos
  rcases Nat.lt_or_eq_of_le high with high | rfl
  · rw [Nat.add_assoc, units_multiple (by omega) (by omega)]
  · have next := f.units_shift (t := f.binade + 1) (by omega) (by omega) (shift + 1)
    have place : shift * f.binade + 2 * f.binade + 1 = (shift + 1) * f.binade + (f.binade + 1) := by
      ring
    rw [place, next, Nat.pow_succ]
    nlinarith [Nat.two_pow_pos shift]

/-- With a fraction, the places of a binade come in pairs. -/
theorem binade_even (fraction : 0 < f.fractionBits) : f.binade % 2 = 0 := by
  obtain ⟨k, same⟩ := Nat.exists_eq_add_of_le' fraction
  have double : f.binade = 2 * 2 ^ k := by
    show 2 ^ f.fractionBits = 2 * 2 ^ k
    rw [same]
    ring
  omega

namespace Suits

variable {q : ℚ} {shift t : Nat} (suits : f.Suits q shift) (multiple : IsMultiple q shift t)

include suits multiple

/-- The nearest multiple lies in the binade, its end included. -/
theorem range : t ≤ 2 * f.binade ∧ (f.binade ≤ t ∨ shift = 0) := by
  have power : (0 : ℚ) < 2 ^ shift := by positivity
  constructor
  · have bound : (2 * t * 2 ^ shift : ℚ) < (4 * f.binade + 1) * 2 ^ shift := by
      have := suits.high
      -- half a step is missing at most, and the number ends with the binade
      have := multiple.low
      linarith
    have cast : (2 * t : ℚ) < 4 * f.binade + 1 := lt_of_mul_lt_mul_right bound power.le
    have : 2 * t < 4 * f.binade + 1 := by exact_mod_cast cast
    omega
  · rcases suits.low with low | zero
    · left
      have bound : (2 * f.binade * 2 ^ shift : ℚ) ≤ (2 * t + 1) * 2 ^ shift := by
        have := multiple.high
        linarith
      have cast : (2 * f.binade : ℚ) ≤ 2 * t + 1 := le_of_mul_le_mul_right bound power
      have : 2 * f.binade ≤ 2 * t + 1 := by exact_mod_cast cast
      omega
    · exact .inr zero

/-- The value before lies one step below, or the number is past the start of the binade. -/
theorem before {m : Nat} (succ : m + 1 = shift * f.binade + t) :
    (f.units m : ℚ) = (t - 1) * 2 ^ shift ∨ (f.units m + t * 2 ^ shift : ℚ) < 2 * q := by
  obtain ⟨high, low⟩ := suits.range multiple
  by_cases first : f.binade + 1 ≤ t ∨ shift = 0
  · left
    obtain ⟨u, rfl⟩ : ∃ u, t = u + 1 := by
      rcases first with first | rfl
      · exact ⟨t - 1, by omega⟩
      · exact ⟨m, by omega⟩
    rw [← Nat.add_assoc, Nat.add_right_cancel_iff] at succ
    rw [succ, units_multiple (by omega) (by omega)]
    push_cast
    ring
  -- at the start of the binade, what is before it is in the binade below
  · right
    rw [not_or] at first
    have edge : t = f.binade := by omega
    have start := suits.low.resolve_right first.2
    have less : f.units m < f.units (shift * f.binade + t) := f.units_strictMono (by omega)
    rw [units_multiple low high] at less
    have cast : (f.units m : ℚ) < t * 2 ^ shift := by exact_mod_cast less
    rw [edge] at cast ⊢
    linarith

/-- What is nearest among the multiples of a step that suits is nearest among all values. -/
theorem isNearest (fraction : 0 < f.fractionBits) : f.IsNearest q (shift * f.binade + t) := by
  obtain ⟨high, low⟩ := suits.range multiple
  have parity : (shift * f.binade + t) % 2 = t % 2 := by
    rw [Nat.add_mod, Nat.mul_mod, binade_even fraction, Nat.mul_zero, Nat.zero_mod, Nat.zero_add,
      Nat.mod_mod]
  have here : (f.units (shift * f.binade + t) : ℚ) = t * 2 ^ shift := by
    exact_mod_cast units_multiple low high
  have next : ((t + 1) * 2 ^ shift : ℚ) ≤ f.units (shift * f.binade + t + 1) := by
    exact_mod_cast le_units_succ low high
  have below := multiple.low
  have above := multiple.high
  refine ⟨fun m succ => ?_, ?_, ?_⟩
  -- on the way down the step may be smaller, but then the number is past the middle anyway
  · rw [here]
    rcases suits.before multiple succ with step | less
    · rw [step]
      linarith
    · exact less.le
  · rw [here]
    linarith
  · rw [here, parity]
    rintro (⟨m, succ, same⟩ | same)
    · rcases suits.before multiple succ with step | less
      · rw [step] at same
        exact multiple.even (.inl (by linarith))
      · exact absurd same less.ne
    · exact multiple.even (.inr (by linarith))

end Suits

/-- Rounding finds the value whose neighbourhood holds the quotient. -/
theorem nearestOrdinal_isNearest (fraction : 0 < f.fractionBits) (num : Nat) {den : Nat}
    (positive : 0 < den) : f.IsNearest (num / den) (f.nearestOrdinal num den) :=
  (suits_quotient num positive).isNearest (divNearest_isMultiple num positive _) fraction

/-- A value is the nearest one to itself. -/
theorem isNearest_units (n : Nat) : f.IsNearest (f.units n) n := by
  have next : (f.units n : ℚ) < f.units (n + 1) := Nat.cast_lt.2 (units_lt_succ n)
  have before (m : Nat) (succ : m + 1 = n) : (f.units m : ℚ) < f.units n :=
    Nat.cast_lt.2 (succ ▸ units_lt_succ m)
  refine ⟨fun m succ => ?_, by linarith, ?_⟩
  · have := before m succ
    linarith
  · rintro (⟨m, succ, same⟩ | same)
    · have := before m succ
      linarith
    · linarith

/-! ## Rounding twice -/

/-- A value in the units of another format. -/
def unitsIn (f g : Format) (n : Nat) : ℚ := g.units n / 2 ^ (g.scale - f.scale)

/-- A format has another one's values and the middles between them. -/
structure Widens (g f : Format) : Prop where
  fraction : f.fractionBits < g.fractionBits
  scale : f.scale < g.scale

/-- The `m`-th value of the wider format is a middle between the `n`-th value and a neighbour, and
the middle is owned by the neighbour. -/
def IsLost (f g : Format) (n m : Nat) : Prop :=
  n % 2 = 1 ∧ ∃ k, (k + 1 = n ∨ k = n) ∧ 2 * f.unitsIn g m = f.units k + f.units (k + 1)

/-- What is lost goes to a neighbour. -/
theorem IsLost.neighbour {g : Format} {n m : Nat} (lost : IsLost f g n m) :
    ∃ k, (k + 1 = n ∨ k = n + 1) ∧ f.IsNearest (f.unitsIn g m) k := by
  obtain ⟨odd, k, side, middle⟩ := lost
  have next (j : Nat) : (f.units j : ℚ) < f.units (j + 1) := Nat.cast_lt.2 (units_lt_succ j)
  -- the neighbour above or the one below, and it has the middle for itself as it is even
  rcases side with rfl | rfl
  · refine ⟨k, .inl rfl, ?_, middle.le, fun _ => by omega⟩
    rintro j rfl
    have := next j
    have := next (j + 1)
    linarith
  · refine ⟨k + 1, .inr rfl, ?_, ?_, fun _ => by omega⟩
    · intro j succ
      obtain rfl : j = k := by omega
      exact middle.ge
    · have := next k
      have := next (k + 1)
      linarith

namespace Widens

variable {g : Format} (wide : g.Widens f)

include wide

/-- The middle between two neighbours is a value of the wider format. -/
theorem exists_middle (n : Nat) :
    ∃ k, (2 * g.units k : ℚ) = (f.units n + f.units (n + 1)) * 2 ^ (g.scale - f.scale) := by
  obtain ⟨w, j, small, sum⟩ := f.exists_middle n
  obtain ⟨c, gap⟩ := Nat.exists_eq_add_of_lt wide.scale
  -- one more bit is enough for the middle
  have room : 4 * f.binade ≤ 2 * g.binade := by
    show 4 * 2 ^ f.fractionBits ≤ 2 * 2 ^ g.fractionBits
    have := Nat.pow_le_pow_right (n := 2) (by decide) wide.fraction
    rw [Nat.succ_eq_add_one, Nat.pow_succ] at this
    omega
  obtain ⟨k, same⟩ := g.exists_units (small.trans room) (j + c)
  refine ⟨k, ?_⟩
  have cast : (f.units n + f.units (n + 1) : ℚ) = w * 2 ^ j := by exact_mod_cast sum
  rw [cast, same, show g.scale - f.scale = c + 1 by omega]
  push_cast
  ring

variable {q : ℚ} {m : Nat} (there : g.IsNearest (q * 2 ^ (g.scale - f.scale)) m)

include there

/-- Rounding to the wider format does not pass a middle. -/
theorem le_middle {n : Nat} (below : 2 * q ≤ (f.units n + f.units (n + 1) : ℚ)) :
    2 * f.unitsIn g m ≤ f.units n + f.units (n + 1) := by
  obtain ⟨k, middle⟩ := wide.exists_middle n
  have power : (0 : ℚ) < 2 ^ (g.scale - f.scale) := by positivity
  have before : q * 2 ^ (g.scale - f.scale) ≤ g.units k := by
    have := mul_le_mul_of_nonneg_right below power.le
    linarith
  have order : (g.units m : ℚ) ≤ g.units k :=
    Nat.cast_le.2 (g.units_strictMono.monotone (there.le (isNearest_units k) before))
  rw [unitsIn, ← mul_div_assoc, div_le_iff₀ power]
  linarith

/-- A number past a middle is not rounded in front of it. -/
theorem middle_le {n : Nat} (above : (f.units n + f.units (n + 1) : ℚ) ≤ 2 * q) :
    (f.units n + f.units (n + 1) : ℚ) ≤ 2 * f.unitsIn g m := by
  obtain ⟨k, middle⟩ := wide.exists_middle n
  have power : (0 : ℚ) < 2 ^ (g.scale - f.scale) := by positivity
  have after : g.units k ≤ q * 2 ^ (g.scale - f.scale) := by
    have := mul_le_mul_of_nonneg_right above power.le
    linarith
  have order : (g.units k : ℚ) ≤ g.units m :=
    Nat.cast_le.2 (g.units_strictMono.monotone ((isNearest_units k).le there after))
  rw [unitsIn, ← mul_div_assoc, le_div_iff₀ power]
  linarith

/-- A number of units that is rounded to the wider format and then again becomes what it would have
become at once, unless it has become a middle that the neighbour owns. -/
theorem isNearest_iff {n : Nat} (here : f.IsNearest q n) :
    f.IsNearest (f.unitsIn g m) n ↔ ¬ IsLost f g n m := by
  constructor
  -- a tie that is not the number's own goes to the even neighbour, which it is not
  · rintro again ⟨odd, k, rfl | rfl, middle⟩
    · have := again.even (.inl ⟨k, rfl, middle.symm⟩)
      omega
    · have := again.even (.inr middle)
      omega
  · intro kept
    refine ⟨?_, wide.le_middle there here.high, ?_⟩
    · rintro k rfl
      exact wide.middle_le there (here.low k rfl)
    · intro middle
      rcases Nat.mod_two_eq_zero_or_one n with even | odd
      · exact even
      · refine absurd ⟨odd, ?_⟩ kept
        rcases middle with ⟨k, rfl, same⟩ | same
        · exact ⟨k, .inl rfl, same.symm⟩
        · exact ⟨n, .inr rfl, same⟩

end Widens

end Format

end EmuHost
