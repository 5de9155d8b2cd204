import PlaneRegion.Proofs.Curve.Straight

/-!
# The visible part of the plane

A usable viewport has sides of at most ten thousand pixels and real scales of at least one pixel per
unit. Along each axis it shows as many units to either side of the origin as fill half of the side,
so the ends of the visible range lie on the edges of the canvas.
-/

namespace PlaneRegion
namespace Viewport

/-- The number of pixels along an axis of the plane. -/
def side {α : Type} (axis : Axis) (viewport : Viewport α) : Nat :=
  match axis with
  | .x => viewport.width
  | .y => viewport.height

/-- The number of pixels per unit along an axis of the plane. -/
def scale {α : Type} (axis : Axis) (viewport : Viewport α) : α :=
  match axis with
  | .x => viewport.scaleX
  | .y => viewport.scaleY

/-- The number of units that are visible to either side of the origin. -/
noncomputable def reach (axis : Axis) (viewport : Viewport ℝ) : ℝ :=
  viewport.side axis / (2 * viewport.scale axis)

theorem side_defined (axis : Axis) (viewport : Viewport ℝ) :
    viewport.defined.side axis = viewport.side axis := by
  cases axis <;> rfl

/-- What is checked of a viewport with real scales. -/
structure IsUsable (viewport : Viewport ℝ) : Prop where
  side_pos : ∀ axis, 0 < viewport.side axis
  side_le : ∀ axis, viewport.side axis ≤ maxSide
  one_le_scale : ∀ axis, 1 ≤ viewport.scale axis

theorem isUsable_of_fault? {viewport : Viewport ℝ} (usable : viewport.defined.fault? = none) :
    viewport.IsUsable := by
  unfold fault? at usable
  split_ifs at usable with empty large coarse
  simp only [isUsableScale, minScale, defined, PartialReal.ofNat_eq, PartialReal.atMost_some,
    PartialReal.isFinite_some, Bool.and_true, Nat.cast_one, Bool.or_eq_true, Bool.not_eq_true',
    decide_eq_false_iff_not, not_or, not_not] at coarse
  simp only [defined, not_or, not_lt] at empty large
  constructor
  · rintro (_ | _)
    · exact Nat.pos_of_ne_zero empty.1
    · exact Nat.pos_of_ne_zero empty.2
  · rintro (_ | _)
    · exact large.1
    · exact large.2
  · rintro (_ | _)
    · exact coarse.1
    · exact coarse.2

/-- A usable viewport has real scales, whatever numbers they are given as. -/
theorem exists_isUsable {viewport : Viewport PartialReal} (usable : viewport.fault? = none) :
    ∃ real : Viewport ℝ, viewport = real.defined ∧ real.IsUsable := by
  obtain ⟨real, rfl, -, -⟩ := exists_eq_defined usable
  exact ⟨real, rfl, isUsable_of_fault? usable⟩

namespace IsUsable

variable {viewport : Viewport ℝ}

theorem scale_pos (usable : viewport.IsUsable) (axis : Axis) : 0 < viewport.scale axis :=
  one_pos.trans_le (usable.one_le_scale axis)

theorem reach_pos (usable : viewport.IsUsable) (axis : Axis) : 0 < viewport.reach axis := by
  have side : (0 : ℝ) < viewport.side axis := Nat.cast_pos.mpr (usable.side_pos axis)
  have scale := usable.scale_pos axis
  unfold reach
  positivity

/-- Half of the side is filled by the units that are visible to one side of the origin. -/
theorem reach_mul_scale (usable : viewport.IsUsable) (axis : Axis) :
    viewport.reach axis * viewport.scale axis = viewport.side axis / 2 := by
  have scale := (usable.scale_pos axis).ne'
  rw [reach]
  field_simp

/-- At one pixel per unit or more, no more units are visible than there are pixels. -/
theorem two_mul_reach_le (usable : viewport.IsUsable) (axis : Axis) :
    2 * viewport.reach axis ≤ viewport.side axis := by
  have filled := usable.reach_mul_scale axis
  have wide := mul_le_mul_of_nonneg_left (usable.one_le_scale axis) (usable.reach_pos axis).le
  linarith

private theorem visible_defined (usable : viewport.IsUsable) (axis : Axis) :
    visible (viewport.side axis) (some (viewport.scale axis) : PartialReal) =
      (some (-viewport.reach axis), some (viewport.reach axis)) := by
  have nonzero : 2 * viewport.scale axis ≠ 0 := (mul_pos two_pos (usable.scale_pos axis)).ne'
  simp [visible, reach, PartialReal.div_some _ nonzero, neg_div]

theorem rangeX_defined (usable : viewport.IsUsable) :
    viewport.defined.rangeX = (some (-viewport.reach .x), some (viewport.reach .x)) :=
  usable.visible_defined .x

theorem rangeY_defined (usable : viewport.IsUsable) :
    viewport.defined.rangeY = (some (-viewport.reach .y), some (viewport.reach .y)) :=
  usable.visible_defined .y

/-- The visible range of a free variable, as real numbers. -/
theorem inputRange_defined (usable : viewport.IsUsable) (axis : Axis) :
    Curve.inputRange axis viewport.defined =
      (some (-viewport.reach axis.other), some (viewport.reach axis.other)) := by
  cases axis with
  | x => exact usable.rangeY_defined
  | y => exact usable.rangeX_defined

end IsUsable

/-- The screen point of a point of the plane, in real numbers. -/
theorem toScreen_real (viewport : Viewport ℝ) (x y : ℝ) :
    viewport.toScreen x y =
      ⟨viewport.side .x / 2 + x * viewport.scale .x,
        viewport.side .y / 2 - y * viewport.scale .y⟩ := by
  simp only [toScreen, toScreenX, toScreenY, Scalar.ofNat_real, Nat.cast_ofNat, side, scale]

/-- The point lies on the canvas, edges included. -/
structure Shows (viewport : Viewport ℝ) (point : Point ℝ) : Prop where
  left : 0 ≤ point.x
  right : point.x ≤ viewport.width
  upper : 0 ≤ point.y
  lower : point.y ≤ viewport.height

/-- A point of the plane whose coordinates are visible lies on the canvas. -/
theorem IsUsable.shows_toScreen {viewport : Viewport ℝ} (usable : viewport.IsUsable) {x y : ℝ}
    (across : |x| ≤ viewport.reach .x) (up : |y| ≤ viewport.reach .y) :
    viewport.Shows (viewport.toScreen x y) := by
  have pixels {axis : Axis} {t : ℝ} (visible : |t| ≤ viewport.reach axis) :
      |t * viewport.scale axis| ≤ viewport.side axis / 2 := by
    have positive := usable.scale_pos axis
    rw [← usable.reach_mul_scale, abs_mul, abs_of_pos positive]
    exact mul_le_mul_of_nonneg_right visible positive.le
  obtain ⟨left, right⟩ := abs_le.mp (pixels across)
  obtain ⟨lower, upper⟩ := abs_le.mp (pixels up)
  rw [toScreen_real]
  simp only [side] at left right lower upper ⊢
  constructor <;> linarith

end Viewport
end PlaneRegion
