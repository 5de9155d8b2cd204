import PlaneRegion.Proofs.Canvas.Visible

/-!
# Axes and ticks

Both axes are drawn across the whole canvas, and a tick at every visible integer. Since a unit takes
at least one pixel, there are hardly more ticks than there are pixels along the two axes.
-/

namespace PlaneRegion

namespace Curve

/-- Exactly the integers that are at most `limit` away from zero, in ascending order. -/
structure IntegersWithin (limit : ℝ) (integers : List ℤ) : Prop where
  mem_iff : ∀ k, k ∈ integers ↔ -limit ≤ k ∧ (k : ℝ) ≤ limit
  ascending : integers.Pairwise (· < ·)

/-- A black line between two points of the screen. -/
def lineBetween (start stop : Point ℝ) : Call PartialReal :=
  .drawLine start.defined stop.defined .black

/-- The black line that reaches equally far from its centre in two opposite directions. -/
def lineAround (centre reach : Point ℝ) : Call PartialReal :=
  lineBetween ⟨centre.x - reach.x, centre.y - reach.y⟩ ⟨centre.x + reach.x, centre.y + reach.y⟩

/-! ## Visible integers -/

section Integers

variable {limit : ℝ} {integers : List ℤ}

private theorem integersIn_some (limit : ℝ) :
    integersIn ((some (-limit), some limit) : PartialReal × PartialReal) =
      (List.range (2 * ⌊limit⌋ + 1).toNat).map fun (i : ℕ) => -⌊limit⌋ + (i : ℤ) := by
  have opened : integersIn ((some (-limit), some limit) : PartialReal × PartialReal) =
      (List.range (⌊limit⌋ + 1 - ⌈-limit⌉).toNat).map fun (i : ℕ) => ⌈-limit⌉ + (i : ℤ) :=
    rfl
  rw [opened, Int.ceil_neg]
  congr 3
  ring

theorem integersWithin_integersIn (limit : ℝ) :
    IntegersWithin limit
      (integersIn ((some (-limit), some limit) : PartialReal × PartialReal)) := by
  rw [integersIn_some]
  constructor
  · intro k
    rw [neg_le, ← Int.cast_neg, ← Int.le_floor, ← Int.le_floor, List.mem_map]
    constructor
    · rintro ⟨i, inRange, rfl⟩
      rw [List.mem_range] at inRange
      omega
    · rintro ⟨lower, upper⟩
      refine ⟨(k + ⌊limit⌋).toNat, ?_, by omega⟩
      rw [List.mem_range]
      omega
  · exact List.pairwise_map.mpr (List.pairwise_lt_range.imp fun before => by omega)

/-- No more integers are visible than there are pixels, save one. -/
theorem length_integersIn_le {pixels : ℕ} (short : 2 * limit ≤ pixels) :
    (integersIn ((some (-limit), some limit) : PartialReal × PartialReal)).length ≤
      pixels + 1 := by
  have whole : ((2 * ⌊limit⌋ : ℤ) : ℝ) ≤ (pixels : ℤ) := by
    push_cast
    linarith [Int.floor_le limit]
  rw [Int.cast_le] at whole
  rw [integersIn_some, List.length_map, List.length_range]
  omega

theorem IntegersWithin.neg_mem_iff (within : IntegersWithin limit integers) (k : ℤ) :
    -k ∈ integers ↔ k ∈ integers := by
  rw [within.mem_iff, within.mem_iff, Int.cast_neg, neg_le_neg_iff, and_comm]
  exact and_congr_left' neg_le

end Integers

/-! ## Lines on the canvas -/

/-- The axes cross at the origin and end at the edges of the canvas; the first one runs from its
lower edge to the upper one and the second one from its left edge to the right one. The ticks stand
on the axes, one for each visible integer. -/
structure AxesWithTicks (viewport : Viewport ℝ) (across up : List ℤ)
    (calls : List (Call PartialReal)) : Prop where
  calls_eq : calls =
    [lineBetween ⟨viewport.width / 2, viewport.height⟩ ⟨viewport.width / 2, 0⟩,
      lineBetween ⟨0, viewport.height / 2⟩ ⟨viewport.width, viewport.height / 2⟩] ++
    across.map (fun (k : ℤ) =>
      lineAround (viewport.toScreen k 0) ⟨0, -(viewport.scaleY / 10)⟩) ++
    up.map (fun (k : ℤ) => lineAround (viewport.toScreen 0 k) ⟨viewport.scaleX / 10, 0⟩)
  origin : viewport.toScreen 0 0 = ⟨viewport.width / 2, viewport.height / 2⟩
  across : IntegersWithin (viewport.width / (2 * viewport.scaleX)) across
  up : IntegersWithin (viewport.height / (2 * viewport.scaleY)) up

private theorem drawLine_defined (viewport : Viewport ℝ) (x₁ y₁ x₂ y₂ : ℝ) :
    Call.drawLine (viewport.defined.toScreen (some x₁) (some y₁))
        (viewport.defined.toScreen (some x₂) (some y₂)) .black =
      lineBetween (viewport.toScreen x₁ y₁) (viewport.toScreen x₂ y₂) := by
  rw [Viewport.toScreen_defined, Viewport.toScreen_defined, lineBetween]

private theorem tickReach_eq : (tickReach : PartialReal) = some (1 / 10) := by
  rw [tickReach, PartialReal.ofPlaces_eq]
  norm_num

private theorem tick_across (viewport : Viewport ℝ) (k : ℤ) :
    lineBetween (viewport.toScreen k (-(1 / 10))) (viewport.toScreen k (1 / 10)) =
      lineAround (viewport.toScreen k 0) ⟨0, -(viewport.scaleY / 10)⟩ := by
  simp only [lineAround, Viewport.toScreen_real, Viewport.side, Viewport.scale]
  congr 2 <;> ring

private theorem tick_up (viewport : Viewport ℝ) (k : ℤ) :
    lineBetween (viewport.toScreen (-(1 / 10)) k) (viewport.toScreen (1 / 10) k) =
      lineAround (viewport.toScreen 0 k) ⟨viewport.scaleX / 10, 0⟩ := by
  simp only [lineAround, Viewport.toScreen_real, Viewport.side, Viewport.scale]
  congr 2 <;> ring

section Usable

variable {viewport : Viewport ℝ}

private theorem axis_up (usable : viewport.IsUsable) :
    lineBetween (viewport.toScreen 0 (-viewport.reach .y))
        (viewport.toScreen 0 (viewport.reach .y)) =
      lineBetween ⟨viewport.width / 2, viewport.height⟩ ⟨viewport.width / 2, 0⟩ := by
  simp only [Viewport.toScreen_real, neg_mul, usable.reach_mul_scale, Viewport.side]
  congr 2 <;> ring

private theorem axis_across (usable : viewport.IsUsable) :
    lineBetween (viewport.toScreen (-viewport.reach .x) 0)
        (viewport.toScreen (viewport.reach .x) 0) =
      lineBetween ⟨0, viewport.height / 2⟩ ⟨viewport.width, viewport.height / 2⟩ := by
  simp only [Viewport.toScreen_real, neg_mul, usable.reach_mul_scale, Viewport.side]
  congr 2 <;> ring

private theorem axes_defined (usable : viewport.IsUsable) :
    AxesWithTicks viewport
      (integersIn
        ((some (-viewport.reach .x), some (viewport.reach .x)) : PartialReal × PartialReal))
      (integersIn
        ((some (-viewport.reach .y), some (viewport.reach .y)) : PartialReal × PartialReal))
      (axes viewport.defined) where
  calls_eq := by
    have integer (k : ℤ) : (Scalar.ofInt k : PartialReal) = some (k : ℝ) := rfl
    simp only [axes, usable.rangeX_defined, usable.rangeY_defined, PartialReal.ofNat_eq,
      Nat.cast_zero, integer, tickReach_eq, PartialReal.neg_some, drawLine_defined, tick_across,
      tick_up, axis_up usable, axis_across usable]
  origin := by simp [Viewport.toScreen_real, Viewport.side]
  across := integersWithin_integersIn _
  up := integersWithin_integersIn _

end Usable

/-- Both axes are drawn from edge to edge, and on each of them one tick for every visible integer in
ascending order. A tick is centred at its integer, which lies on the canvas, and it has a tick
opposite of it on the other side of the origin. All in all these are at most four lines more than
there are pixels along the two sides of the canvas. -/
theorem exists_axes_with_ticks {viewport : Viewport PartialReal}
    (faultless : viewport.fault? = none) :
    ∃ (real : Viewport ℝ) (across up : List ℤ),
      viewport = real.defined ∧ AxesWithTicks real across up (axes viewport) ∧
      (∀ k ∈ across, real.Shows (real.toScreen k 0)) ∧
      (∀ k ∈ up, real.Shows (real.toScreen 0 k)) ∧
      (∀ k, -k ∈ across ↔ k ∈ across) ∧ (∀ k, -k ∈ up ↔ k ∈ up) ∧
      (axes viewport).length ≤ viewport.width + viewport.height + 4 := by
  obtain ⟨viewport, rfl, usable⟩ := Viewport.exists_isUsable faultless
  have drawn := axes_defined usable
  have atOrigin (axis : Axis) : |(0 : ℝ)| ≤ viewport.reach axis := by
    rw [abs_zero]
    exact (usable.reach_pos axis).le
  refine ⟨viewport, _, _, rfl, drawn, ?_, ?_, drawn.across.neg_mem_iff, drawn.up.neg_mem_iff, ?_⟩
  · intro k member
    exact usable.shows_toScreen (abs_le.mpr ((drawn.across.mem_iff k).mp member)) (atOrigin .y)
  · intro k member
    exact usable.shows_toScreen (atOrigin .x) (abs_le.mpr ((drawn.up.mem_iff k).mp member))
  · have across := length_integersIn_le (usable.two_mul_reach_le .x)
    have up := length_integersIn_le (usable.two_mul_reach_le .y)
    rw [drawn.calls_eq]
    simp only [List.length_append, List.length_map, List.length_cons, List.length_nil,
      Viewport.defined]
    simp only [Viewport.side] at across up
    omega

/-- The axes of a canvas that is narrower than one unit and whose visible range ends at integers
along the other side. -/
theorem exists_axes_of_narrow_canvas :
    (⟨1, 7, some 3, some (7 / 2)⟩ : Viewport PartialReal).fault? = none ∧
      ∃ (real : Viewport ℝ) (across up : List ℤ),
        (⟨1, 7, some 3, some (7 / 2)⟩ : Viewport PartialReal) = real.defined ∧
        AxesWithTicks real across up (axes ⟨1, 7, some 3, some (7 / 2)⟩) ∧
        (∀ k ∈ across, real.Shows (real.toScreen k 0)) ∧
        (∀ k ∈ up, real.Shows (real.toScreen 0 k)) ∧
        (∀ k, -k ∈ across ↔ k ∈ across) ∧ (∀ k, -k ∈ up ↔ k ∈ up) ∧
        (axes (⟨1, 7, some 3, some (7 / 2)⟩ : Viewport PartialReal)).length ≤ 1 + 7 + 4 := by
  have faultless : (⟨1, 7, some 3, some (7 / 2)⟩ : Viewport PartialReal).fault? = none := by
    norm_num [Viewport.fault?, Viewport.maxSide, Viewport.isUsableScale, Viewport.minScale]
  exact ⟨faultless, exists_axes_with_ticks faultless⟩

end Curve
end PlaneRegion
