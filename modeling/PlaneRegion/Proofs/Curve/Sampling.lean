import PlaneRegion.Curve.Sampling
import PlaneRegion.Proofs.Scalar.Partial

/-!
# Equally spaced samples

In a usable viewport and at a usable step, the samples of a curve lie at equal distances along its
free variable, whether or not the curve has values there.
-/

namespace PlaneRegion

/-- What is checked of a usable sampling. -/
theorem Sampling.of_fault? {α : Type} [Scalar α] {sampling : Sampling α}
    (usable : sampling.fault? = none) :
    (Scalar.atMost minStep sampling.step = true ∧ Scalar.isFinite sampling.step = true) ∧
      Scalar.atMost (Scalar.ofNat 0) sampling.smoothness = true ∧
      Scalar.isFinite sampling.smoothness = true := by
  unfold fault? at usable
  split_ifs at usable with coarse rough
  exact ⟨by simpa using coarse, by simpa using rough⟩

theorem Sampling.minStep_eq : (minStep : PartialReal) = some (1 / 1000) := by
  rw [minStep, PartialReal.ofPlaces_eq]
  norm_num

/-- The step of a usable sampling is positive, and its smoothness is not negative. -/
theorem Sampling.exists_of_fault? {sampling : Sampling PartialReal}
    (usable : sampling.fault? = none) :
    (∃ step : ℝ, sampling.step = some step ∧ 0 < step) ∧
      ∃ smoothness : ℝ, sampling.smoothness = some smoothness ∧ 0 ≤ smoothness := by
  obtain ⟨⟨least, -⟩, nonneg, -⟩ := of_fault? usable
  rw [minStep_eq] at least
  rw [PartialReal.ofNat_eq, Nat.cast_zero] at nonneg
  obtain ⟨step, isStep, atLeast⟩ := PartialReal.exists_of_atMost least
  exact ⟨⟨step, isStep, by linarith⟩, PartialReal.exists_of_atMost nonneg⟩

theorem Sampling.standard_eq :
    (standard : Sampling PartialReal) = ⟨some (1 / 100), some (1 / 2)⟩ := by
  rw [standard, PartialReal.ofPlaces_eq, PartialReal.ofPlaces_eq]
  norm_num

theorem Sampling.fault?_standard : (standard : Sampling PartialReal).fault? = none := by
  norm_num [fault?, standard_eq, minStep_eq]

theorem Viewport.fault?_standard : (standard : Viewport PartialReal).fault? = none := by
  norm_num [fault?, standard, maxSide, isUsableScale, minScale]

namespace Curve

/-! ## Inputs -/

/-- The inputs between two numbers: none of them is dropped, since the last is below the stop. -/
theorem inputs_some {start stop step : ℝ} (positive : 0 < step) :
    inputs (some start : PartialReal) (some stop) (some step) =
      (List.range ⌈(stop - start) / step⌉.toNat).map fun (i : ℕ) => some (start + i * step) := by
  have below {i : ℕ} (inRange : i ∈ List.range ⌈(stop - start) / step⌉.toNat) :
      start + i * step < stop := by
    have counted : (i : ℤ) < ⌈(stop - start) / step⌉ := by
      have := List.mem_range.mp inRange
      omega
    have steps := (lt_div_iff₀ positive).mp (Int.lt_ceil.mp counted)
    push_cast at steps
    linarith
  by_cases ascending : start < stop
  · have count : Scalar.ceilInt ((some stop - some start) / some step : PartialReal) =
        ⌈(stop - start) / step⌉ := by
      rw [PartialReal.sub_some, PartialReal.div_some _ positive.ne']
      rfl
    simp only [inputs, PartialReal.ofNat_eq, PartialReal.less_some, positive, ascending, count,
      Nat.cast_zero, decide_true, Bool.and_self, if_true, PartialReal.mul_some,
      PartialReal.add_some]
    rw [List.filter_eq_self]
    intro input member
    obtain ⟨i, inRange, rfl⟩ := List.mem_map.mp member
    simpa using below inRange
  · have none : ⌈(stop - start) / step⌉.toNat = 0 := by
      rw [Int.toNat_eq_zero, Int.ceil_le]
      simpa using div_nonpos_of_nonpos_of_nonneg (by linarith) positive.le
    simp [inputs, ascending, none]

/-! ## Samples on the screen -/

theorem value_sample {α : Type} [Scalar α] (equation : Equation α) (axis : Axis) (range : α × α)
    (step : α) (viewport : Viewport α) :
    (sample equation axis range step viewport).value =
      (tabulate equation range step).map (place axis viewport) :=
  rfl

/-- How far a point lies along the free variable of a row, on the screen. -/
noncomputable def progress (axis : Axis) (point : Point PartialReal) : PartialReal :=
  match axis with
  | .y => point.x
  | .x => -point.y

/-- The second point lies by the given distance further along the free variable than the first. -/
def FreelySpaced (axis : Axis) (distance : ℝ) (first second : Point PartialReal) : Prop :=
  ∃ place : ℝ, progress axis first = some place ∧ progress axis second = some (place + distance)

/-- Both scales of a usable viewport are positive. -/
theorem exists_scales {viewport : Viewport PartialReal}
    (usable : viewport.fault? = none) :
    (∃ scale : ℝ, viewport.scaleX = some scale ∧ 0 < scale) ∧
      ∃ scale : ℝ, viewport.scaleY = some scale ∧ 0 < scale := by
  unfold Viewport.fault? at usable
  split_ifs at usable with _ _ unusable
  simp only [Bool.or_eq_true, Bool.not_eq_true', not_or, Bool.not_eq_false] at unusable
  have positive {scale : PartialReal} (usable : Viewport.isUsableScale scale = true) :
      ∃ real : ℝ, scale = some real ∧ 0 < real := by
    have atLeast := (Bool.and_eq_true_iff.mp usable).1
    rw [Viewport.minScale, PartialReal.ofNat_eq, Nat.cast_one] at atLeast
    obtain ⟨real, found, bound⟩ := PartialReal.exists_of_atMost atLeast
    exact ⟨real, found, one_pos.trans_le bound⟩
  exact ⟨positive unusable.1, positive unusable.2⟩

private theorem exists_progress_place (axis : Axis) {viewport : Viewport PartialReal}
    (usable : viewport.fault? = none) :
    ∃ start stop offset scale : ℝ, inputRange axis viewport = (some start, some stop) ∧
      0 < scale ∧ ∀ (input : ℝ) (value : PartialReal),
        progress axis (place axis viewport (some input, value)) =
          some (offset + input * scale) := by
  obtain ⟨⟨scaleX, foundX, positiveX⟩, scaleY, foundY, positiveY⟩ := exists_scales usable
  have range (pixels : ℕ) {scale : ℝ} (positive : 0 < scale) :
      ∃ start stop : ℝ, Viewport.visible pixels (some scale) = (some start, some stop) := by
    have nonzero : 2 * scale ≠ 0 := by positivity
    exact ⟨-pixels / (2 * scale), -(-pixels / (2 * scale)), by
      simp [Viewport.visible, PartialReal.div_some _ nonzero]⟩
  cases axis with
  | y =>
      obtain ⟨start, stop, visible⟩ := range viewport.width positiveX
      refine ⟨start, stop, viewport.width / 2, scaleX, ?_, positiveX, fun input value => ?_⟩
      · rw [inputRange, Viewport.rangeX, foundX, visible]
      · simp [progress, place, Viewport.toScreen, Viewport.toScreenX, foundX]
  | x =>
      obtain ⟨start, stop, visible⟩ := range viewport.height positiveY
      refine ⟨start, stop, -(viewport.height / 2), scaleY, ?_, positiveY, fun input value => ?_⟩
      · rw [inputRange, Viewport.rangeY, foundY, visible]
      · simp [progress, place, Viewport.toScreen, Viewport.toScreenY, foundY]
        ring

/-- The samples of an equation are equally spaced along its free variable, also where the equation
has no value. -/
theorem exists_freelySpaced_sample (equation : Equation PartialReal) (axis : Axis)
    {viewport : Viewport PartialReal} {step : ℝ} (usable : viewport.fault? = none)
    (positive : 0 < step) :
    ∃ distance : ℝ, 0 ≤ distance ∧
      (sample equation axis (inputRange axis viewport) (some step) viewport).value.IsChain
        (FreelySpaced axis distance) := by
  obtain ⟨start, stop, offset, scale, range, scalePositive, places⟩ :=
    exists_progress_place axis usable
  refine ⟨step * scale, by positivity, ?_⟩
  rw [value_sample, range, tabulate, inputs_some positive, List.isChain_map, List.isChain_map,
    List.isChain_map, List.isChain_iff_getElem]
  intro i inRange
  rw [List.getElem_range, List.getElem_range]
  refine ⟨offset + (start + i * step) * scale, places _ _, ?_⟩
  rw [places]
  congr 1
  push_cast
  ring

end Curve
end PlaneRegion
