import EmuHost.Proofs.PanelEdges
import EmuHost.Settings.Graphics

/-!
# Positions on the panel

Which positions the rounded mapping of points gives. For any point, any client area and any ratio, a
coordinate of a position lies on the panel, its far edge included, unless the coordinate of the
point is no number (`Panel.IsPosition`). Two things get past the comparisons that should keep
positions on the panel:

- Comparisons with what is no number are false, so a point or a ratio that is none is not turned
  away.
- A point before the far edge may have a distance from the corner that is rounded to the whole size
  of the screen. Then its position is the far edge, which is outside the panel. It takes a client
  area of `2 ^ 23` at least, and an axis that the screen does not fill.

## Key results

- `Panel.Fits.isCoordinate`: one coordinate
- `Panel.position?_isPosition`: positions
- `Panel.position?_off_panel`: positions that are not on the panel
-/

namespace EmuHost.Panel

open Binary

/-! ## One axis -/

/-- A coordinate of a position: it lies on the panel, the far edge included, and on the edge exactly
if the rounded distance of the point from the corner of the screen is the whole size of the screen.
If the screen is `plain` along the axis, it never lies on the edge. -/
structure IsCoordinate (p t s k : Binary32) (plain : Prop) (coordinate : Binary32) : Prop where
  number : coordinate ≠ .nan
  start : (Scalar.ofNat 0 : Binary32).le coordinate = true
  stop : coordinate.le k = true
  edge : coordinate.lt k = true ↔ (p - t).lt s = true
  short : plain → coordinate.lt k = true

/-- A screen fills an axis of the client area, or the area is small along it. -/
def IsPlain (w : Nat) (s : Binary32) : Prop := s = Scalar.ofNat w ∨ w < 2 ^ 23

/-- A small size is not rounded. -/
theorem hasUnits_small {w : Nat} (small : w < 2 ^ 23) :
    (Scalar.ofNat w : Binary32).HasUnits (w * unit) := by
  -- all the bits of a small size fit into the fraction
  obtain ⟨k, same⟩ := Format.single.exists_units (w := w) (by rw [single_binade]; omega) 149
  have bound : k < 0x4f800000 := by
    have most : Format.single.units 0x4f800000 = 2 ^ 32 * 2 ^ 149 := by decide +kernel
    exact (Format.units_strictMono (f := .single)).lt_iff_lt.mp (by omega)
  have infinity := single_infinity
  have value : (w : ℤ) * unit = Format.single.units k := by
    rw [unit_eq, same]
    push_cast
    rfl
  have rounds := ofRat_rounds single_fraction (w : ℚ)
  rw [value]
  refine rounds.exact (hasUnits_finite ⟨k, by omega⟩) ?_
  rw [← value, cast_unit]
  push_cast
  rfl

/-- A number that is not outside the screen becomes a coordinate. -/
theorem Fits.isCoordinate {w : Nat} {p s k : Binary32} {client size length : ℤ}
    (fits : Fits (Scalar.ofNat w) s client size) (started : 0 < w) (isSide : IsSide k length)
    (number : p ≠ .nan) (notBefore : p.lt ((Scalar.ofNat w - s) * Scalar.ofRat (1 / 2)) = false)
    (notPast : ((Scalar.ofNat w - s) * Scalar.ofRat (1 / 2) + s).le p = false) :
    IsCoordinate p ((Scalar.ofNat w - s) * Scalar.ofRat (1 / 2)) s k (IsPlain w s)
      ((p - (Scalar.ofNat w - s) * Scalar.ofRat (1 / 2)) / s * k) := by
  obtain ⟨corner, hasCorner⟩ := exists_corner fits
  obtain ⟨point, distance, inside⟩ :=
    exists_isInside fits.hasSize hasCorner number notBefore notPast
  -- a point that is inside leaves room for a screen
  have positive : 0 < size := by
    have := inside.notBefore
    have := inside.notPast
    omega
  obtain ⟨panel, value, above, below⟩ := scaled_between isSide fits.hasSize positive inside.rounded
    inside.nonneg inside.most
  have edge := scaled_lt_iff isSide fits.hasSize positive inside.rounded inside.nonneg inside.most
  refine ⟨value.ne_nan, ?_, ?_, ?_, ?_⟩
  · exact (hasUnits_zero.le_iff value).mpr above
  · exact (value.le_iff isSide.value).mpr below
  · rw [edge, inside.rounded.lt_iff fits.hasSize]
  · rw [edge]
    rintro (rfl | small)
    · -- the screen fills the area, so it starts at the origin
      have filled := (sub_rounds single_fraction fits.hasSize fits.hasSize).exact hasUnits_zero
        (by simp)
      have origin := (halved_rounds filled).exact hasUnits_zero (by simp)
      obtain rfl := hasCorner.unique origin
      exact inside.short_of_origin origin
    · have same := fits.hasClient.unique (hasUnits_small small)
      exact fits.short small started same hasCorner inside

/-! ## The screen of a client area -/

section

variable {w h : Nat} {aspect : Binary32}

/-- A screen fills the area along one axis at least. -/
theorem screen_full (w h : Nat) (aspect : Binary32) :
    IsPlain w (screen w h aspect).x ∨ IsPlain h (screen w h aspect).y := by
  unfold screen screenSize
  split
  · exact .inr (.inl rfl)
  · exact .inl (.inl rfl)

/-- The width of the screen fits into the area. -/
theorem exists_fits_x (wide : w < 2 ^ 32) (high : h < 2 ^ 32) (started : 0 < w) (opened : 0 < h)
    (taken : aspect.le (Scalar.ofNat 0) = false) :
    ∃ client size, Fits (Scalar.ofNat w) (screen w h aspect).x client size := by
  obtain ⟨n, -, small, width⟩ := exists_client started wide
  obtain ⟨m, large, -, height⟩ := exists_client opened high
  unfold screen screenSize
  split
  · rename_i narrow
    have positive : 0 < Format.single.units m :=
      (Nat.zero_le _).trans_lt ((Format.units_strictMono (f := .single)) (by omega : 0 < m))
    exact ⟨_, exists_fits_narrow height positive width small taken narrow⟩
  · exact ⟨_, _, fits_client width small⟩

/-- And so does its height, if the ratio is a number. -/
theorem exists_fits_y (wide : w < 2 ^ 32) (high : h < 2 ^ 32) (started : 0 < w) (opened : 0 < h)
    (taken : aspect.le (Scalar.ofNat 0) = false) (number : aspect ≠ .nan) :
    ∃ client size, Fits (Scalar.ofNat h) (screen w h aspect).y client size := by
  obtain ⟨n, large, -, width⟩ := exists_client started wide
  obtain ⟨m, -, small, height⟩ := exists_client opened high
  unfold screen screenSize
  split
  · exact ⟨_, _, fits_client height small⟩
  · rename_i notNarrow
    exact ⟨_, exists_fits_high height small width large number taken
      (Bool.eq_false_iff.mpr notNarrow)⟩

/-- A ratio that is no number is not turned away, and gives a height that is none. -/
theorem screen_nan (w h : Nat) : (screen w h (.nan : Binary32)).y = .nan := by
  have ordered : Scalar.lt ((clientSize w h : Vec2 Binary32).y * .nan) (clientSize w h).x =
      false := by
    rw [mul_nan]
    rfl
  unfold screen screenSize
  rw [if_neg (by rw [ordered]; nofun)]
  exact div_nan _

end

/-! ## Positions -/

/-- A position on the panel: each coordinate of the point becomes a coordinate on the panel, unless
it is no number or, for the second one, the ratio is none. -/
structure IsPosition (point : Vec2 Binary32) (w h : Nat) (aspect : Binary32) (q : Vec2 Binary32) :
    Prop where
  x : point.x ≠ .nan → IsCoordinate point.x (start w h aspect).x (screen w h aspect).x
    (Scalar.ofNat width) (IsPlain w (screen w h aspect).x) q.x
  y : point.y ≠ .nan → aspect ≠ .nan → IsCoordinate point.y (start w h aspect).y
    (screen w h aspect).y (Scalar.ofNat height) (IsPlain h (screen w h aspect).y) q.y
  nan_x : point.x = .nan → q.x = .nan
  nan_y : point.y = .nan ∨ aspect = .nan → q.y = .nan
  plain : IsPlain w (screen w h aspect).x ∨ IsPlain h (screen w h aspect).y

theorem scaled_isPosition {point : Vec2 Binary32} {w h : Nat} {aspect : Binary32}
    (wide : w < 2 ^ 32) (high : h < 2 ^ 32) (started : 0 < w) (opened : 0 < h)
    (taken : aspect.le (Scalar.ofNat 0) = false)
    (inside : isOutside point (start w h aspect) (stop w h aspect) = false) :
    IsPosition point w h aspect (scaled point (start w h aspect) (screen w h aspect)) := by
  simp only [isOutside, Bool.or_eq_false_iff] at inside
  obtain ⟨⟨⟨notLeft, notAbove⟩, notRight⟩, notBelow⟩ := inside
  -- each part of the position is about one axis or about what is no number
  refine ⟨fun number => ?_, fun number ratio => ?_, fun none => ?_, fun none => ?_,
    screen_full w h aspect⟩
  · obtain ⟨client, size, fits⟩ := exists_fits_x wide high started opened taken
    exact fits.isCoordinate started width_isSide number notLeft notRight
  · obtain ⟨client, size, fits⟩ := exists_fits_y wide high started opened taken ratio
    exact fits.isCoordinate opened height_isSide number notAbove notBelow
  · simp [scaled, none]
  · rcases none with none | rfl
    · simp [scaled, none]
    · simp [scaled, screen_nan]

/-- What a position is like for any point, any area and any ratio: its coordinates are on the panel
or no numbers, and which of the two is known from the point and the ratio. -/
theorem position?_isPosition {point q : Vec2 Binary32} {w h : Nat} {aspect : Binary32}
    (wide : w < 2 ^ 32) (high : h < 2 ^ 32) (found : position? point w h aspect = some q) :
    IsPosition point w h aspect q := by
  rw [position?_eq] at found
  split at found
  · cases found
  rename_i accepted
  obtain ⟨started, opened, taken⟩ : w ≠ 0 ∧ h ≠ 0 ∧ ¬Scalar.le aspect (Scalar.ofNat 0) = true := by
    simpa only [not_or] using accepted
  split at found
  · cases found
  rename_i inside
  obtain rfl := Option.some.inj found
  exact scaled_isPosition wide high (Nat.pos_of_ne_zero started) (Nat.pos_of_ne_zero opened)
    (Bool.eq_false_iff.mpr taken) (Bool.eq_false_iff.mpr inside)

/-- A point in the last column of a very wide screen. The screen starts one and a half to the right
of the origin, so the distance is rounded to the whole size. -/
theorem position?_isPosition_far :
    position? ⟨Scalar.ofNat 8388611, Scalar.ofNat 0⟩ 8388613 4718593
        AspectRatio.fixed16x9.value = some ⟨Scalar.ofNat width, Scalar.ofNat 0⟩ ∧
      IsPosition ⟨Scalar.ofNat 8388611, Scalar.ofNat 0⟩ 8388613 4718593
        AspectRatio.fixed16x9.value ⟨Scalar.ofNat width, Scalar.ofNat 0⟩ := by
  have found : position? ⟨Scalar.ofNat 8388611, Scalar.ofNat 0⟩ 8388613 4718593
      AspectRatio.fixed16x9.value = some ⟨Scalar.ofNat width, Scalar.ofNat 0⟩ := by decide +kernel
  exact ⟨found, position?_isPosition (by decide) (by decide) found⟩

/-- Such a position is past the last column of the panel, and a ratio that is no number gives a
position that is none either. -/
theorem position?_off_panel :
    (∃ q, position? ⟨Scalar.ofNat 8388611, Scalar.ofNat 0⟩ 8388613 4718593
        AspectRatio.fixed16x9.value = some q ∧ q.x.lt (Scalar.ofNat width) = false) ∧
      ∃ q, position? ⟨Scalar.ofNat 0, Scalar.ofNat 0⟩ 1280 720 (.nan : Binary32) = some q ∧
        (Scalar.ofNat 0 : Binary32).le q.y = false := by
  refine ⟨⟨⟨Scalar.ofNat width, Scalar.ofNat 0⟩, ?_, ?_⟩, ⟨Scalar.ofNat 0, .nan⟩, ?_, ?_⟩ <;>
    decide +kernel

end EmuHost.Panel
