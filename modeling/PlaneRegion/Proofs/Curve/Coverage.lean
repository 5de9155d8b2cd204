import PlaneRegion.Proofs.Canvas.Visible

/-!
# Coverage of the visible range

In a usable viewport and at a usable step, a curve is sampled at equal distances over the whole
visible range of its free variable. The range begins on one edge of the canvas and ends on the other
one, which belongs to it no longer, and there are at most a thousand inputs for each pixel.
-/

namespace PlaneRegion

/-- The step of a usable sampling is at least a thousandth. -/
theorem Sampling.exists_step {sampling : Sampling PartialReal} (usable : sampling.fault? = none) :
    ∃ step : ℝ, sampling.step = some step ∧ 1 / 1000 ≤ step := by
  obtain ⟨⟨least, -⟩, -⟩ := of_fault? usable
  rw [minStep_eq] at least
  exact PartialReal.exists_of_atMost least

/-- The point stands where the screen has an input of a row, and lies on the canvas there: between
the left edge and the right one for a row for `y`, and between the lower edge and the upper one for
a row for `x`. Only the edge that is named first belongs to the canvas. -/
def Viewport.ShowsInput (viewport : Viewport PartialReal) (axis : Axis) (input : ℝ)
    (point : Point PartialReal) : Prop :=
  match axis with
  | .y => ∃ x : ℝ, viewport.toScreenX (some input) = some x ∧ point.x = some x ∧
      0 ≤ x ∧ x < viewport.side .x
  | .x => ∃ y : ℝ, viewport.toScreenY (some input) = some y ∧ point.y = some y ∧
      0 < y ∧ y ≤ viewport.side .y

namespace Curve

/-- All numbers below `stop` that are a whole number of steps above `start`, in order. -/
structure Covers (start stop step : ℝ) (inputs : List ℝ) : Prop where
  mem_iff : ∀ input, input ∈ inputs ↔ ∃ i : ℕ, input = start + i * step ∧ input < stop
  ascending : inputs.Pairwise (· < ·)
  first : inputs.head? = some start
  count : (inputs.length : ℤ) = ⌈(stop - start) / step⌉

section Range

variable {start stop step : ℝ}

/-- The number of steps below the stop is known from the length of the range. -/
theorem lt_ceil_iff (positive : 0 < step) (i : ℕ) :
    i < ⌈(stop - start) / step⌉.toNat ↔ start + i * step < stop := by
  rw [Int.lt_toNat, Int.lt_ceil, Int.cast_natCast, lt_div_iff₀ positive, lt_sub_iff_add_lt']

private theorem covers_steps (positive : 0 < step) (ascending : start < stop) :
    Covers start stop step
      ((List.range ⌈(stop - start) / step⌉.toNat).map fun (i : ℕ) => start + i * step) where
  mem_iff input := by
    simp only [List.mem_map, List.mem_range, lt_ceil_iff positive]
    constructor
    · rintro ⟨i, below, rfl⟩
      exact ⟨i, rfl, below⟩
    · rintro ⟨i, rfl, below⟩
      exact ⟨i, below, rfl⟩
  ascending := by
    refine List.pairwise_map.mpr (List.pairwise_lt_range.imp fun {i j} before => ?_)
    have counted : (i : ℝ) < j := Nat.cast_lt.mpr before
    have steps := mul_lt_mul_of_pos_right counted positive
    linarith
  first := by
    have counted : 0 < ⌈(stop - start) / step⌉.toNat := by
      rw [lt_ceil_iff positive]
      simpa using ascending
    obtain ⟨n, count⟩ := Nat.exists_eq_succ_of_ne_zero counted.ne'
    simp [count, List.range_succ_eq_map]
  count := by
    have nonneg : 0 ≤ ⌈(stop - start) / step⌉ :=
      Int.ceil_nonneg (div_nonneg (sub_nonneg.mpr ascending.le) positive.le)
    rw [List.length_map, List.length_range, Int.toNat_of_nonneg nonneg]

/-- The inputs between two real numbers are real and cover the range. -/
theorem exists_covers_inputs (positive : 0 < step) (ascending : start < stop) :
    ∃ reals : List ℝ, inputs (some start : PartialReal) (some stop) (some step) = reals.map some ∧
      Covers start stop step reals := by
  refine ⟨_, ?_, covers_steps positive ascending⟩
  rw [inputs_some positive, List.map_map]
  rfl

/-- A range has at most a thousand inputs for each unit of an upper bound of its length, if the step
is at least a thousandth. -/
theorem Covers.length_le {inputs : List ℝ} (covers : Covers start stop step inputs)
    (least : 1 / 1000 ≤ step) {bound : ℕ} (short : stop - start ≤ bound) :
    inputs.length ≤ 1000 * bound := by
  have positive : 0 < step := by linarith
  have steps : (stop - start) / step ≤ ((1000 * bound : ℕ) : ℤ) := by
    rw [div_le_iff₀ positive]
    push_cast
    calc stop - start ≤ bound := short
      _ = 1000 * bound * (1 / 1000) := by ring
      _ ≤ 1000 * bound * step := mul_le_mul_of_nonneg_left least (by positivity)
  have count := Int.ceil_le.mpr steps
  rw [← covers.count] at count
  exact_mod_cast count

end Range

theorem map_fst_tabulate {α : Type} [Scalar α] (equation : Equation α) (range : α × α) (step : α) :
    (tabulate equation range step).map Prod.fst = inputs range.1 range.2 step := by
  rw [tabulate, List.map_map]
  exact List.map_id _

private theorem pixels_of_visible {viewport : Viewport ℝ} (usable : viewport.IsUsable) {axis : Axis}
    {input : ℝ} (lower : -viewport.reach axis ≤ input) (upper : input < viewport.reach axis) :
    -(viewport.side axis / 2 : ℝ) ≤ input * viewport.scale axis ∧
      input * viewport.scale axis < viewport.side axis / 2 := by
  have positive := usable.scale_pos axis
  rw [← usable.reach_mul_scale, ← neg_mul]
  exact ⟨mul_le_mul_of_nonneg_right lower positive.le, mul_lt_mul_of_pos_right upper positive⟩

private theorem showsInput_place {viewport : Viewport ℝ} (usable : viewport.IsUsable) (axis : Axis)
    {input : ℝ} (lower : -viewport.reach axis.other ≤ input)
    (upper : input < viewport.reach axis.other) (value : PartialReal) :
    viewport.defined.ShowsInput axis input (place axis viewport.defined (some input, value)) := by
  obtain ⟨atLeast, below⟩ := pixels_of_visible usable lower upper
  cases axis with
  | y =>
      have across : viewport.defined.toScreenX (some input) =
          some (viewport.side .x / 2 + input * viewport.scale .x) := by
        simp [Viewport.toScreenX, Viewport.defined, Viewport.side, Viewport.scale]
      rw [Axis.other] at atLeast below
      refine ⟨_, across, across, by linarith, ?_⟩
      rw [Viewport.side_defined]
      linarith
  | x =>
      have down : viewport.defined.toScreenY (some input) =
          some (viewport.side .y / 2 - input * viewport.scale .y) := by
        simp [Viewport.toScreenY, Viewport.defined, Viewport.side, Viewport.scale]
      rw [Axis.other] at atLeast below
      refine ⟨_, down, down, by linarith, ?_⟩
      rw [Viewport.side_defined]
      linarith

/-- The inputs of an equation cover the visible range of its free variable: they are all numbers of
the range that are a whole number of steps above its lower end, in ascending order. They are at most
a thousand for each pixel along the free variable. Each of them has one point on the screen, which
lies on the canvas. -/
theorem exists_covers_visible {viewport : Viewport PartialReal} {sampling : Sampling PartialReal}
    (viewportUsable : viewport.fault? = none) (samplingUsable : sampling.fault? = none)
    (axis : Axis) (equation : Equation PartialReal) :
    ∃ (start stop step : ℝ) (inputs : List ℝ),
      inputRange axis viewport = (some start, some stop) ∧ sampling.step = some step ∧
      (tabulate equation (inputRange axis viewport) sampling.step).map Prod.fst =
        inputs.map some ∧
      Covers start stop step inputs ∧
      inputs.length ≤ 1000 * viewport.side axis.other ∧
      List.Forall₂ (viewport.ShowsInput axis) inputs
        (sample equation axis (inputRange axis viewport) sampling.step viewport).value := by
  obtain ⟨viewport, rfl, usable⟩ := Viewport.exists_isUsable viewportUsable
  obtain ⟨step, isStep, least⟩ := Sampling.exists_step samplingUsable
  have reach := usable.reach_pos axis.other
  have ascending : -viewport.reach axis.other < viewport.reach axis.other := by linarith
  obtain ⟨reals, sampled, covers⟩ := exists_covers_inputs (by linarith : 0 < step) ascending
  refine ⟨_, _, step, reals, usable.inputRange_defined axis, isStep, ?_, covers, ?_, ?_⟩
  · rw [map_fst_tabulate, usable.inputRange_defined, isStep, sampled]
  · refine covers.length_le least ?_
    have short := usable.two_mul_reach_le axis.other
    rw [Viewport.side_defined]
    linarith
  · rw [value_sample, usable.inputRange_defined, isStep, tabulate, sampled, List.map_map,
      List.map_map, List.forall₂_map_right_iff]
    refine List.forall₂_same.mpr fun input isInput => ?_
    obtain ⟨i, rfl, below⟩ := (covers.mem_iff input).mp isInput
    have ahead : 0 ≤ i * step := mul_nonneg i.cast_nonneg (by linarith)
    exact showsInput_place usable axis (by linarith) below _

/-- A square root over the lower and the upper half of a small canvas, whose visible range is no
whole number of steps. -/
theorem exists_covers_small_canvas :
    (⟨10, 7, some 3, some 2⟩ : Viewport PartialReal).fault? = none ∧
      (⟨some (1 / 3), some 0⟩ : Sampling PartialReal).fault? = none ∧
      ∃ (start stop step : ℝ) (inputs : List ℝ),
        inputRange .x (⟨10, 7, some 3, some 2⟩ : Viewport PartialReal) = (some start, some stop) ∧
        (some (1 / 3) : PartialReal) = some step ∧
        (tabulate [.root (some 1) (some 1)]
          (inputRange .x (⟨10, 7, some 3, some 2⟩ : Viewport PartialReal))
          (some (1 / 3))).map Prod.fst = inputs.map some ∧
        Covers start stop step inputs ∧ inputs.length ≤ 1000 * 7 ∧
        List.Forall₂ (Viewport.ShowsInput ⟨10, 7, some 3, some 2⟩ .x) inputs
          (sample [.root (some 1) (some 1)] .x
            (inputRange .x (⟨10, 7, some 3, some 2⟩ : Viewport PartialReal)) (some (1 / 3))
            ⟨10, 7, some 3, some 2⟩).value := by
  have viewportUsable : (⟨10, 7, some 3, some 2⟩ : Viewport PartialReal).fault? = none := by
    norm_num [Viewport.fault?, Viewport.maxSide, Viewport.isUsableScale, Viewport.minScale]
  have samplingUsable : (⟨some (1 / 3), some 0⟩ : Sampling PartialReal).fault? = none := by
    norm_num [Sampling.fault?, Sampling.minStep_eq]
  exact ⟨viewportUsable, samplingUsable,
    exists_covers_visible viewportUsable samplingUsable .x [.root (some 1) (some 1)]⟩

end Curve
end PlaneRegion
