import EmuHost.Input.Panel
import Mathlib.Algebra.Order.Field.Rat
import Mathlib.Tactic.FieldSimp
import Mathlib.Tactic.Linarith
import Mathlib.Tactic.LinearCombination
import Mathlib.Tactic.Positivity
import Mathlib.Tactic.Ring

/-!
# Letterbox mapping

Read exactly, the screen in a client area is the one rectangle of its ratio that lies in the middle
of the area and fills it along one side (`Panel.IsFitted.unique`): it does not matter which of the
two ways it is computed in. The mapping onto the panel stretches each axis of the screen by itself,
so it is a bijection of half-open rectangles, and it does not see the unit of the client area.

No division by zero is hidden in it. `Checked` numbers have no value after one, and the mapping of
checked numbers is the mapping of exact numbers.

## Key results

- `Panel.screen_isFitted`, `Panel.IsFitted.unique`: the screen in a client area
- `Panel.position?_eq_some_iff`: the mapping, axis by axis
- `Panel.position?_checked`: no division by zero
- `Panel.letterbox_mapping`: the screen and the mapping for any area and any ratio
-/

namespace EmuHost

/-- The pair with a function applied to both coordinates. -/
def Vec2.map {α β : Type} (f : α → β) (v : Vec2 α) : Vec2 β := ⟨f v.x, f v.y⟩

/-- A number of an exact calculation, missing if it comes out of a division by zero. -/
structure Checked where
  value? : Option ℚ

namespace Checked

/-- A number that is there. -/
def of (q : ℚ) : Checked := ⟨some q⟩

instance : Scalar Checked where
  add a b := ⟨do return (← a.value?) + (← b.value?)⟩
  sub a b := ⟨do return (← a.value?) - (← b.value?)⟩
  mul a b := ⟨do return (← a.value?) * (← b.value?)⟩
  div a b := ⟨do
    let divisor ← b.value?
    if divisor = 0 then none else return (← a.value?) / divisor⟩
  ofRat := of
  lt a b :=
    match a.value?, b.value? with
    | some x, some y => decide (x < y)
    | _, _ => false
  le a b :=
    match a.value?, b.value? with
    | some x, some y => decide (x ≤ y)
    | _, _ => false

/-- A quotient of numbers is a number, unless it is by zero. -/
theorem of_div {a b : ℚ} (nonzero : b ≠ 0) : of a / of b = of (a / b) :=
  congrArg mk (if_neg nonzero)

end Checked

namespace Panel

/-! ## The screen of a client area -/

section

variable {α : Type} [Scalar α]

open Scalar

/-- The size of a client area as numbers. -/
def clientSize (w h : Nat) : Vec2 α := ⟨ofNat w, ofNat h⟩

/-- The size of the screen. -/
def screen (w h : Nat) (aspect : α) : Vec2 α := screenSize (clientSize w h) aspect

/-- The corner of the screen nearest to the origin. -/
def start (w h : Nat) (aspect : α) : Vec2 α := screenStart (clientSize w h) (screen w h aspect)

/-- The opposite corner. -/
def stop (w h : Nat) (aspect : α) : Vec2 α := screenEnd (start w h aspect) (screen w h aspect)

/-- A point has a position if there is an area, a ratio, and the point on the screen between them.
-/
theorem position?_eq (p : Vec2 α) (w h : Nat) (aspect : α) :
    position? p w h aspect =
      if w = 0 ∨ h = 0 ∨ le aspect (ofNat 0) = true then none
      else if isOutside p (start w h aspect) (stop w h aspect) then none
      else some (scaled p (start w h aspect) (screen w h aspect)) := rfl

end

/-- A size that is fitted into a client area: it has the ratio, lies in the area and fills it along
one side at least. -/
structure IsFitted (client size : Vec2 ℚ) (aspect : ℚ) : Prop where
  positive : 0 < size.y
  ratio : size.x = aspect * size.y
  narrow : size.x ≤ client.x
  low : size.y ≤ client.y
  full : size.x = client.x ∨ size.y = client.y

namespace IsFitted

variable {client size other : Vec2 ℚ} {aspect : ℚ}

/-- A fitted screen has a width. -/
theorem width_pos (fitted : IsFitted client size aspect) (positive : 0 < aspect) : 0 < size.x := by
  rw [fitted.ratio]
  exact mul_pos positive fitted.positive

/-- No fitted size is higher than another one. -/
theorem height_le (fitted : IsFitted client size aspect) (also : IsFitted client other aspect)
    (positive : 0 < aspect) : size.y ≤ other.y := by
  rcases also.full with wide | high
  · -- as wide as the area, so not less wide than the other one
    have wider : aspect * size.y ≤ aspect * other.y := by
      rw [← fitted.ratio, ← also.ratio, wide]
      exact fitted.narrow
    exact le_of_mul_le_mul_left wider positive
  · rw [high]
    exact fitted.low

/-- There is one way to fit a ratio into an area. -/
theorem unique (fitted : IsFitted client size aspect) (also : IsFitted client other aspect)
    (positive : 0 < aspect) : size = other := by
  have height : size.y = other.y :=
    le_antisymm (fitted.height_le also positive) (also.height_le fitted positive)
  have width : size.x = other.x := by rw [fitted.ratio, also.ratio, height]
  cases size
  cases other
  exact congrArg₂ Vec2.mk width height

/-- What fits an area fits it in any unit. -/
theorem scale (fitted : IsFitted client size aspect) {k : ℚ} (positive : 0 < k) :
    IsFitted (client.map (k * ·)) (size.map (k * ·)) aspect := by
  refine ⟨mul_pos positive fitted.positive, ?_, ?_, ?_, ?_⟩
  · show k * size.x = aspect * (k * size.y)
    rw [fitted.ratio]
    ring
  · exact mul_le_mul_of_nonneg_left fitted.narrow positive.le
  · exact mul_le_mul_of_nonneg_left fitted.low positive.le
  · exact fitted.full.imp (congrArg (k * ·)) (congrArg (k * ·))

end IsFitted

variable {w h : Nat} {aspect : ℚ}

/-- In an area that is too wide the screen has the height of the area. -/
theorem screen_of_wide (wide : (h * aspect : ℚ) < w) : screen w h aspect = ⟨h * aspect, h⟩ :=
  if_pos (decide_eq_true wide)

/-- In any other one it has the width. -/
theorem screen_of_high (high : (w : ℚ) ≤ h * aspect) : screen w h aspect = ⟨w, w / aspect⟩ :=
  if_neg fun less => absurd high (not_le.mpr (of_decide_eq_true less))

/-- Either way of computing the screen fits it into the area. -/
theorem screen_isFitted (wide : 0 < w) (high : 0 < h) (positive : 0 < aspect) :
    IsFitted (clientSize w h) (screen w h aspect) aspect := by
  have width : (0 : ℚ) < w := Nat.cast_pos.mpr wide
  have height : (0 : ℚ) < h := Nat.cast_pos.mpr high
  rcases lt_or_ge (h * aspect : ℚ) w with less | more
  · rw [screen_of_wide less]
    exact ⟨height, mul_comm _ _, less.le, le_refl _, .inr rfl⟩
  · rw [screen_of_high more]
    refine ⟨div_pos width positive, ?_, le_refl _, ?_, .inl rfl⟩
    · show (w : ℚ) = aspect * (w / aspect)
      field_simp
    · show (w / aspect : ℚ) ≤ h
      rwa [div_le_iff₀ positive]

/-! ## One axis -/

/-- Where a point of an axis falls on `count` pixels. -/
def along (start size count p : ℚ) : ℚ := (p - start) / size * count

section

variable {start size count : ℚ} (positive : 0 < size) (pixels : 0 < count)

/-- The near edge of an axis is its origin. -/
theorem along_start : along start size count start = 0 := by
  rw [along, sub_self, zero_div, zero_mul]

include positive

/-- The far edge is behind all its pixels. -/
theorem along_stop : along start size count (start + size) = count := by
  rw [along, add_sub_cancel_left, div_self positive.ne', one_mul]

include pixels

/-- An axis keeps the order of its points. -/
theorem along_lt_along {p p' : ℚ} :
    along start size count p < along start size count p' ↔ p < p' := by
  rw [along, along, mul_lt_mul_iff_left₀ pixels, div_lt_div_iff_of_pos_right positive,
    sub_lt_sub_iff_right]

/-- And tells them apart. -/
theorem along_inj {p p' : ℚ} :
    along start size count p = along start size count p' ↔ p = p' := by
  simp only [eq_iff_le_not_lt, ← not_lt, along_lt_along positive pixels]

/-- An axis falls on the pixels but for its end. -/
theorem along_within {p : ℚ} :
    (0 ≤ along start size count p ∧ along start size count p < count) ↔
      start ≤ p ∧ p < start + size := by
  have first : along start size count p < along start size count start ↔ p < start :=
    along_lt_along positive pixels
  have last : along start size count p < along start size count (start + size) ↔
      p < start + size := along_lt_along positive pixels
  rw [along_start] at first
  rw [along_stop positive] at last
  rw [last, ← not_lt, first, not_lt]

/-- Every place on the pixels is met. -/
theorem along_inverse (start q : ℚ) : along start size count (start + q / count * size) = q := by
  rw [along, add_sub_cancel_left, mul_div_cancel_right₀ _ positive.ne',
    div_mul_cancel₀ _ pixels.ne']

end

/-! ## The mapping -/

/-- Whether a point lies in a rectangle that has its near edges and not its far ones. -/
def Within (p near far : Vec2 ℚ) : Prop :=
  (near.x ≤ p.x ∧ p.x < far.x) ∧ (near.y ≤ p.y ∧ p.y < far.y)

/-- Being outside is tested edge by edge. -/
theorem isOutside_iff (p near far : Vec2 ℚ) : isOutside p near far = false ↔ Within p near far := by
  unfold isOutside Within
  show (decide (p.x < near.x) || decide (p.y < near.y) || decide (far.x ≤ p.x) ||
    decide (far.y ≤ p.y)) = false ↔ _
  simp only [Bool.or_eq_false_iff, decide_eq_false_iff_not, not_lt, not_le]
  tauto

section

variable (wide : 0 < w) (high : 0 < h) (positive : 0 < aspect)

include wide high positive

/-- The points of the screen have a panel position, found for each axis by itself. -/
theorem position?_eq_some_iff {p q : Vec2 ℚ} :
    position? p w h aspect = some q ↔
      Within p (start w h aspect) (stop w h aspect) ∧
        q.x = along (start w h aspect).x (screen w h aspect).x 1280 p.x ∧
        q.y = along (start w h aspect).y (screen w h aspect).y 720 p.y := by
  -- the guards let every proper area through
  have proper : ¬(w = 0 ∨ h = 0 ∨ Scalar.le aspect (Scalar.ofNat 0) = true) := by
    rintro (rfl | rfl | small)
    · exact absurd wide (by decide)
    · exact absurd high (by decide)
    · exact absurd (of_decide_eq_true small) (not_le.mpr positive)
  rw [position?_eq, if_neg proper, ← isOutside_iff]
  cases isOutside p (start w h aspect) (stop w h aspect) with
  | true => simp
  | false =>
    obtain ⟨x, y⟩ := q
    simp only [Bool.false_eq_true, if_false, Option.some.injEq, true_and]
    rw [eq_comm, scaled, Vec2.mk.injEq]
    rfl

/-- Exactly the points of the screen have a panel position. -/
theorem position?_isSome_iff (p : Vec2 ℚ) :
    (position? p w h aspect).isSome = true ↔
      Within p (start w h aspect) (stop w h aspect) := by
  rw [Option.isSome_iff_exists]
  constructor
  · rintro ⟨q, found⟩
    exact ((position?_eq_some_iff wide high positive).mp found).1
  · intro inside
    exact ⟨⟨_, _⟩, (position?_eq_some_iff wide high positive).mpr ⟨inside, rfl, rfl⟩⟩

/-- The point of the screen for a place of the panel. -/
theorem position?_inverse {q : Vec2 ℚ} (within : Within q ⟨0, 0⟩ ⟨1280, 720⟩) :
    position? ⟨(start w h aspect).x + q.x / 1280 * (screen w h aspect).x,
      (start w h aspect).y + q.y / 720 * (screen w h aspect).y⟩ w h aspect = some q := by
  have fitted := screen_isFitted wide high positive
  have width := fitted.width_pos positive
  have columns : (0 : ℚ) < 1280 := by norm_num
  have rows : (0 : ℚ) < 720 := by norm_num
  have x := along_inverse width columns (start w h aspect).x q.x
  have y := along_inverse fitted.positive rows (start w h aspect).y q.y
  refine (position?_eq_some_iff wide high positive).mpr ⟨⟨?_, ?_⟩, x.symm, y.symm⟩
  · exact (along_within width columns).mp (x.symm ▸ within.1)
  · exact (along_within fitted.positive rows).mp (y.symm ▸ within.2)

/-- What the corners of the screen say about it. -/
structure Letterboxes (w h : Nat) (aspect : ℚ) (near far : Vec2 ℚ) : Prop where
  inside : (0 ≤ near.x ∧ far.x ≤ w) ∧ (0 ≤ near.y ∧ far.y ≤ h)
  centered : near.x + far.x = w ∧ near.y + far.y = h
  nonempty : near.x < far.x ∧ near.y < far.y
  ratio : far.x - near.x = aspect * (far.y - near.y)
  touches : (near.x = 0 ∧ far.x = w) ∨ (near.y = 0 ∧ far.y = h)

/-- The two corners enclose the letterboxed rectangle. -/
theorem start_stop_letterboxes :
    Letterboxes w h aspect (start w h aspect) (stop w h aspect) := by
  -- all but the two corners is known of a fitted screen, and they split the rest of the area
  have fitted := screen_isFitted wide high positive
  generalize sized : screen w h aspect = size at fitted
  have near : start w h aspect = ⟨(w - size.x) * (1 / 2), (h - size.y) * (1 / 2)⟩ := by
    rw [start, sized]
    rfl
  have far : stop w h aspect =
      ⟨(w - size.x) * (1 / 2) + size.x, (h - size.y) * (1 / 2) + size.y⟩ := by
    rw [stop, near, sized]
    rfl
  have width := fitted.width_pos positive
  have height := fitted.positive
  have narrow : size.x ≤ w := fitted.narrow
  have low : size.y ≤ h := fitted.low
  rw [near, far]
  constructor <;> dsimp only
  case inside => exact ⟨⟨by linarith, by linarith⟩, by linarith, by linarith⟩
  case centered => exact ⟨by ring, by ring⟩
  case nonempty => exact ⟨by linarith, by linarith⟩
  case ratio => linear_combination fitted.ratio
  case touches =>
    rcases fitted.full with full | full
    · have full : size.x = w := full
      exact .inl ⟨by linarith, by linarith⟩
    · have full : size.y = h := full
      exact .inr ⟨by linarith, by linarith⟩

end

/-! ## Units -/

/-- An axis does not see its unit. -/
theorem along_scale {k : ℚ} (factor : 0 < k) (start size count p : ℚ) :
    along (k * start) (k * size) count (k * p) = along start size count p := by
  rw [along, along, ← mul_sub, mul_div_mul_left _ _ factor.ne']

/-- Neither does a rectangle. -/
theorem within_scale {k : ℚ} (factor : 0 < k) (p near far : Vec2 ℚ) :
    Within (p.map (k * ·)) (near.map (k * ·)) (far.map (k * ·)) ↔ Within p near far := by
  simp only [Within, Vec2.map, mul_le_mul_iff_right₀ factor, mul_lt_mul_iff_right₀ factor]

section

variable {w' h' : Nat} {k : ℚ} (wide : 0 < w) (high : 0 < h) (positive : 0 < aspect)
  (factor : 0 < k) (width : (w' : ℚ) = k * w) (height : (h' : ℚ) = k * h)

include factor

/-- What is scaled from something that is there is there. -/
theorem scaled_pos {n n' : Nat} (some : 0 < n) (scaled : (n' : ℚ) = k * n) : 0 < n' := by
  rw [← Nat.cast_pos (α := ℚ), scaled]
  exact mul_pos factor (Nat.cast_pos.mpr some)

include wide high positive width height

/-- The screen of an area in another unit is the screen in that unit. -/
theorem screen_scale : screen w' h' aspect = (screen w h aspect).map (k * ·) := by
  have area : clientSize w' h' = (clientSize w h).map (k * ·) :=
    congrArg₂ Vec2.mk width height
  have scaled := (screen_isFitted wide high positive).scale factor
  rw [← area] at scaled
  have fitted := screen_isFitted (scaled_pos factor wide width) (scaled_pos factor high height)
    positive
  exact fitted.unique scaled positive

/-- The mapping does not see the unit of the client area. -/
theorem position?_scale (p : Vec2 ℚ) :
    position? (p.map (k * ·)) w' h' aspect = position? p w h aspect := by
  have size := screen_scale wide high positive factor width height
  -- the start is half of what the screen leaves over, and both halves are scaled
  have near : start w' h' aspect = (start w h aspect).map (k * ·) := by
    rw [start, start, size]
    refine congrArg₂ Vec2.mk ?_ ?_
    · show ((w' : ℚ) - k * (screen w h aspect).x) * (1 / 2) =
        k * ((w - (screen w h aspect).x) * (1 / 2))
      rw [width]
      ring
    · show ((h' : ℚ) - k * (screen w h aspect).y) * (1 / 2) =
        k * ((h - (screen w h aspect).y) * (1 / 2))
      rw [height]
      ring
  have far : stop w' h' aspect = (stop w h aspect).map (k * ·) := by
    rw [stop, stop, near, size]
    exact congrArg₂ Vec2.mk (mul_add ..).symm (mul_add ..).symm
  ext q
  rw [position?_eq_some_iff (scaled_pos factor wide width) (scaled_pos factor high height) positive,
    position?_eq_some_iff wide high positive, near, far, size, within_scale factor]
  simp only [Vec2.map, along_scale factor]

end

/-! ## Divisions -/

section

variable (wide : 0 < w) (high : 0 < h) (positive : 0 < aspect)

/-- The screen is found without a division by zero. -/
theorem screen_checked (nonzero : aspect ≠ 0) :
    screen w h (Checked.of aspect) = (screen w h aspect).map .of := by
  rcases lt_or_ge (h * aspect : ℚ) w with less | more
  · rw [screen_of_wide less]
    exact if_pos (decide_eq_true less)
  · rw [screen_of_high more]
    have quotient : Checked.of w / .of aspect = .of (w / aspect) := Checked.of_div nonzero
    show _ = Vec2.mk (Checked.of w) (Checked.of (w / aspect))
    rw [← quotient]
    exact if_neg fun less => absurd more (not_le.mpr (of_decide_eq_true less))

/-- A screen that is there can be divided by. -/
theorem scaled_checked (p near : Vec2 ℚ) {size : Vec2 ℚ} (width : size.x ≠ 0)
    (height : size.y ≠ 0) :
    scaled (p.map .of) (near.map .of) (size.map Checked.of) = (scaled p near size).map .of := by
  have x : Checked.of (p.x - near.x) / .of size.x = .of ((p.x - near.x) / size.x) :=
    Checked.of_div width
  have y : Checked.of (p.y - near.y) / .of size.y = .of ((p.y - near.y) / size.y) :=
    Checked.of_div height
  show Vec2.mk (Checked.of (p.x - near.x) / .of size.x * .of 1280)
    (Checked.of (p.y - near.y) / .of size.y * .of 720) = _
  rw [x, y]
  rfl

include wide high positive

/-- Nothing is divided by zero on the way to a panel position. -/
theorem position?_checked (p : Vec2 ℚ) :
    position? (p.map .of) w h (Checked.of aspect) = (position? p w h aspect).map (·.map .of) := by
  have size := screen_checked (w := w) (h := h) positive.ne'
  have near : start w h (Checked.of aspect) = (start w h aspect).map .of := by
    rw [start, size]
    rfl
  have far : stop w h (Checked.of aspect) = (stop w h aspect).map .of := by
    rw [stop, near, size]
    rfl
  have fitted := screen_isFitted wide high positive
  have proportion := scaled_checked p (start w h aspect) (fitted.width_pos positive).ne'
    fitted.positive.ne'
  rw [position?_eq, position?_eq, near, far, size, proportion]
  -- the comparisons never divide, so they fall out alike on both sides
  show (if w = 0 ∨ h = 0 ∨ Scalar.le aspect (Scalar.ofNat 0) = true then none
    else if isOutside p (start w h aspect) (stop w h aspect) then none else some _) = _
  split
  · rfl
  · split
    · rfl
    · rfl

/-- What the exact reading of the mapping does for a client area and a ratio. -/
structure MapsScreen (w h : Nat) (aspect : ℚ) : Prop where
  letterboxes : Letterboxes w h aspect (start w h aspect) (stop w h aspect)
  isSome_iff : ∀ p, (position? p w h aspect).isSome = true ↔
    Within p (start w h aspect) (stop w h aspect)
  /-- Nothing is divided by zero. -/
  checked : ∀ p : Vec2 ℚ,
    position? (p.map .of) w h (Checked.of aspect) = (position? p w h aspect).map (·.map .of)
  onPanel : ∀ p q, position? p w h aspect = some q → Within q ⟨0, 0⟩ ⟨1280, 720⟩
  bijective : ∀ q, Within q ⟨0, 0⟩ ⟨1280, 720⟩ → ∃! p, position? p w h aspect = some q
  increasing : ∀ p p' q q', position? p w h aspect = some q → position? p' w h aspect = some q' →
    (q.x < q'.x ↔ p.x < p'.x) ∧ (q.y < q'.y ↔ p.y < p'.y)
  corner : position? (start w h aspect) w h aspect = some ⟨0, 0⟩
  center : position? (⟨w / 2, h / 2⟩ : Vec2 ℚ) w h aspect = some ⟨640, 360⟩
  unit : ∀ (k : ℚ) (w' h' : Nat), 0 < k → (w' : ℚ) = k * w → (h' : ℚ) = k * h →
    ∀ p : Vec2 ℚ, position? (p.map (k * ·)) w' h' aspect = position? p w h aspect

/-- For any client area and any ratio, the screen is the letterboxed rectangle in the middle of the
area, and it is mapped onto the panel one to one. -/
theorem letterbox_mapping : MapsScreen w h aspect := by
  have fitted := screen_isFitted wide high positive
  have width := fitted.width_pos positive
  have height := fitted.positive
  have columns : (0 : ℚ) < 1280 := by norm_num
  have rows : (0 : ℚ) < 720 := by norm_num
  have found {p q : Vec2 ℚ} := position?_eq_some_iff (p := p) (q := q) wide high positive
  have letterboxes := start_stop_letterboxes wide high positive
  constructor
  case letterboxes => exact letterboxes
  case isSome_iff => exact position?_isSome_iff wide high positive
  case checked => exact position?_checked wide high positive
  case unit =>
    intro k w' h' factor widths heights
    exact position?_scale wide high positive factor widths heights
  case onPanel =>
    intro p q maps
    obtain ⟨inside, x, y⟩ := found.mp maps
    rw [Within, x, y]
    -- one axis at a time, each between its edges
    exact ⟨(along_within width columns).mpr inside.1, (along_within height rows).mpr inside.2⟩
  case bijective =>
    intro q within
    have inverse := position?_inverse wide high positive within
    refine ⟨_, inverse, fun p maps => ?_⟩
    obtain ⟨-, x, y⟩ := found.mp maps
    obtain ⟨-, x', y'⟩ := found.mp inverse
    have x := (along_inj width columns).mp (x.symm.trans x')
    have y := (along_inj height rows).mp (y.symm.trans y')
    -- only points with the same position on both axes are left, and an axis is injective
    cases p
    exact congrArg₂ Vec2.mk x y
  case increasing =>
    intro p p' q q' maps maps'
    obtain ⟨-, x, y⟩ := found.mp maps
    obtain ⟨-, x', y'⟩ := found.mp maps'
    rw [x, y, x', y']
    exact ⟨along_lt_along width columns, along_lt_along height rows⟩
  case corner =>
    have inverse := position?_inverse wide high positive (q := ⟨0, 0⟩) (by norm_num [Within])
    simpa only [zero_div, zero_mul, add_zero] using inverse
  case center =>
    have inverse := position?_inverse wide high positive (q := ⟨640, 360⟩) (by norm_num [Within])
    -- the middle of the area is the middle of the screen
    have far : (stop w h aspect).x = (start w h aspect).x + (screen w h aspect).x := rfl
    have far' : (stop w h aspect).y = (start w h aspect).y + (screen w h aspect).y := rfl
    have x : (start w h aspect).x + 640 / 1280 * (screen w h aspect).x = w / 2 := by
      linarith [letterboxes.centered.1]
    have y : (start w h aspect).y + 360 / 720 * (screen w h aspect).y = h / 2 := by
      linarith [letterboxes.centered.2]
    rwa [x, y] at inverse

end

/-- An area that is too wide by 360 pixels on either side. -/
theorem letterbox_mapping_wide :
    0 < 2000 ∧ 0 < 720 ∧ (0 : ℚ) < 16 / 9 ∧
      position? (⟨360, 0⟩ : Vec2 ℚ) 2000 720 (16 / 9) = some ⟨0, 0⟩ ∧
      position? (⟨360 / 2, 0⟩ : Vec2 ℚ) 1000 360 (16 / 9) = some ⟨0, 0⟩ := by
  have positive : (0 : ℚ) < 16 / 9 := by norm_num
  -- halving the area and the point keeps the position
  have maps := letterbox_mapping (w := 2000) (h := 720) (by decide) (by decide) positive
  have corner : start 2000 720 (16 / 9 : ℚ) = ⟨360, 0⟩ := by decide +kernel
  have first := maps.corner
  rw [corner] at first
  have half := maps.unit (1 / 2) 1000 360 (by norm_num) (by norm_num) (by norm_num) ⟨360, 0⟩
  rw [first] at half
  have point : (Vec2.map (1 / 2 * ·) ⟨360, 0⟩ : Vec2 ℚ) = ⟨360 / 2, 0⟩ := by
    norm_num [Vec2.map]
  rw [point] at half
  exact ⟨by decide, by decide, positive, first, half⟩

end Panel

end EmuHost
