import PlaneRegion.Proofs.Canvas.Flattening
import PlaneRegion.Proofs.Curve.Defined
import PlaneRegion.Proofs.Curve.Interpolation
import PlaneRegion.Proofs.Curve.Sampling
import PlaneRegion.Proofs.Equation.Linear

/-!
# Straight lines

A linear equation is drawn as a straight line. On the screen its samples lie where a linear function
of both coordinates is constant, whichever variable the equation is for. Controls are moved along
chords between samples and the points of a segment are averages of its corners, so neither leaves
the line, however large the smoothness is.
-/

namespace PlaneRegion

/-- The point of the plane satisfies the linear equation for a variable. -/
def Axis.OnLine (axis : Axis) (level slope x y : ℝ) : Prop :=
  match axis with
  | .y => y = level + slope * x
  | .x => x = level + slope * y

/-- The point of the screen is the image of a point of the line. -/
def Viewport.ShowsOnLine (viewport : Viewport PartialReal) (axis : Axis) (level slope : ℝ)
    (point : Point PartialReal) : Prop :=
  ∃ x y : ℝ, axis.OnLine level slope x y ∧ point = viewport.toScreen (some x) (some y)

theorem Point.defined_injective : Function.Injective Point.defined := by
  rintro ⟨_, _⟩ ⟨_, _⟩ same
  simpa [Point.defined] using same

/-- A viewport with real scales. -/
def Viewport.defined (viewport : Viewport ℝ) : Viewport PartialReal :=
  ⟨viewport.width, viewport.height, some viewport.scaleX, some viewport.scaleY⟩

theorem Viewport.toScreen_defined (viewport : Viewport ℝ) (x y : ℝ) :
    viewport.defined.toScreen (some x) (some y) = (viewport.toScreen x y).defined := by
  simp [Viewport.toScreen, Viewport.toScreenX, Viewport.toScreenY, Viewport.defined,
    Point.defined]

/-- A usable viewport has real scales, and they are positive. -/
theorem Viewport.exists_eq_defined {viewport : Viewport PartialReal}
    (usable : viewport.fault? = none) :
    ∃ real : Viewport ℝ, viewport = real.defined ∧ 0 < real.scaleX ∧ 0 < real.scaleY := by
  obtain ⟨⟨scaleX, isScaleX, positiveX⟩, scaleY, isScaleY, positiveY⟩ :=
    Curve.exists_scales usable
  refine ⟨⟨viewport.width, viewport.height, scaleX, scaleY⟩, ?_, positiveX, positiveY⟩
  simp [Viewport.defined, ← isScaleX, ← isScaleY]

private theorem toScreen_eq_iff {viewport : Viewport ℝ} (positiveX : 0 < viewport.scaleX)
    (positiveY : 0 < viewport.scaleY) (point : Point ℝ) (x y : ℝ) :
    point = viewport.toScreen x y ↔
      x = (point.x - viewport.width / 2) / viewport.scaleX ∧
        y = (viewport.height / 2 - point.y) / viewport.scaleY := by
  obtain ⟨screenX, screenY⟩ := point
  rw [eq_div_iff positiveX.ne', eq_div_iff positiveY.ne']
  simp only [Viewport.toScreen, Viewport.toScreenX, Viewport.toScreenY, Scalar.ofNat_real,
    Nat.cast_ofNat, Point.mk.injEq]
  constructor
  · rintro ⟨rfl, rfl⟩
    constructor <;> ring
  · rintro ⟨across, up⟩
    constructor <;> linarith

/-- On the screen, a line consists of the points that lie equally far in one direction. -/
theorem Viewport.exists_showsOnLine_iff {viewport : Viewport ℝ} (positiveX : 0 < viewport.scaleX)
    (positiveY : 0 < viewport.scaleY) (axis : Axis) (level slope : ℝ) :
    ∃ (direction : Point ℝ) (distance : ℝ), ∀ point : Point ℝ,
      viewport.defined.ShowsOnLine axis level slope point.defined ↔
        direction.along point = distance := by
  have shown (point : Point ℝ) : viewport.defined.ShowsOnLine axis level slope point.defined ↔
      axis.OnLine level slope ((point.x - viewport.width / 2) / viewport.scaleX)
        ((viewport.height / 2 - point.y) / viewport.scaleY) := by
    simp only [ShowsOnLine, toScreen_defined, Point.defined_injective.eq_iff,
      toScreen_eq_iff positiveX positiveY]
    constructor
    · rintro ⟨_, _, onLine, rfl, rfl⟩
      exact onLine
    · exact fun onLine => ⟨_, _, onLine, rfl, rfl⟩
  cases axis with
  | y =>
      refine ⟨⟨slope / viewport.scaleX, 1 / viewport.scaleY⟩,
        slope / viewport.scaleX * (viewport.width / 2) +
          1 / viewport.scaleY * (viewport.height / 2) - level, fun point => ?_⟩
      rw [shown, Axis.OnLine, Point.along]
      constructor <;> intro equal <;> linear_combination -equal
  | x =>
      refine ⟨⟨1 / viewport.scaleX, slope / viewport.scaleY⟩,
        1 / viewport.scaleX * (viewport.width / 2) +
          slope / viewport.scaleY * (viewport.height / 2) + level, fun point => ?_⟩
      rw [shown, Axis.OnLine, Point.along]
      constructor <;> intro equal <;> linear_combination equal

namespace Curve

/-- Controls stay on the line that a point and its neighbours lie on. -/
theorem along_controls {direction before point after : Point ℝ} {distance : ℝ}
    (atBefore : direction.along before = distance) (atPoint : direction.along point = distance)
    (atAfter : direction.along after = distance) (smoothness : ℝ) :
    direction.along (controls before point after smoothness).1 = distance ∧
      direction.along (controls before point after smoothness).2 = distance := by
  by_cases coincide : before.distance point + point.distance after = 0
  · simp [controls, coincide, atPoint]
  · simp only [controls, Scalar.equal_real, Scalar.ofNat_real, Nat.cast_zero, coincide,
      decide_false, Bool.false_eq_true, if_false]
    generalize smoothness * before.distance point /
      (before.distance point + point.distance after) = share
    unfold Point.along at *
    constructor
    · linear_combination atPoint - share * (atAfter - atBefore)
    · linear_combination atPoint + (smoothness - share) * (atAfter - atBefore)

/-- The path through points of a line has no other points, however it is flattened. -/
theorem along_of_mem_flatten {direction first second : Point ℝ} {rest : List (Point ℝ)}
    {distance : ℝ} (smoothness : ℝ) (colour : Colour)
    (onLine : ∀ point ∈ first :: second :: rest, direction.along point = distance) :
    let path : StrokedPath ℝ := ⟨first, runSegments smoothness first second rest, colour⟩
    (∀ point ∈ path.points, direction.along point = distance) ∧
      ∀ steps, ∀ point ∈ path.flatten steps, direction.along point = distance := by
  intro path
  have corners : ∀ point ∈ path.points, direction.along point = distance := by
    rw [StrokedPath.points, List.forall_mem_cons]
    refine ⟨onLine first List.mem_cons_self, fun point member => ?_⟩
    obtain ⟨segment, isSegment, inside⟩ := List.mem_flatMap.mp member
    exact forall_points_runSegments onLine (fun p isP q isQ r isR =>
      along_controls (onLine p isP) (onLine q isQ) (onLine r isR) smoothness) segment isSegment
        point inside
  refine ⟨corners, fun steps point member => le_antisymm ?_ ?_⟩
  · exact StrokedPath.along_le_of_mem_flatten (fun corner inside => (corners corner inside).le)
      member
  · have opposite (p : Point ℝ) : Point.along ⟨-direction.x, -direction.y⟩ p =
        -direction.along p := by
      simp only [Point.along]
      ring
    have bound : Point.along ⟨-direction.x, -direction.y⟩ point ≤ -distance :=
      StrokedPath.along_le_of_mem_flatten
        (fun corner inside => by rw [opposite, corners corner inside]) member
    rw [opposite] at bound
    exact neg_le_neg_iff.mp bound

/-- Only real inputs are sampled. -/
theorem exists_of_mem_inputs {start stop step input : PartialReal}
    (member : input ∈ inputs start stop step) : ∃ t : ℝ, input = some t := by
  unfold inputs at member
  split_ifs at member
  · cases input with
    | none => cases (List.mem_filter.mp member).2
    | some t => exact ⟨t, rfl⟩
  · cases member

/-- The samples of a linear function show points of its line. -/
theorem showsOnLine_of_mem_sample {equation : Equation PartialReal} {level slope : ℝ}
    (values : ∀ t : ℝ, equation.evaluate (some t) = some (level + slope * t)) (axis : Axis)
    (viewport : Viewport PartialReal) (range : PartialReal × PartialReal) (step : PartialReal) :
    ∀ point ∈ (sample equation axis range step viewport).value,
      viewport.ShowsOnLine axis level slope point := by
  intro _ member
  obtain ⟨_, sampled, rfl⟩ := List.mem_map.mp member
  obtain ⟨_, isInput, rfl⟩ := List.mem_map.mp sampled
  obtain ⟨t, rfl⟩ := exists_of_mem_inputs isInput
  rw [values]
  cases axis with
  | y => exact ⟨t, level + slope * t, rfl, rfl⟩
  | x => exact ⟨level + slope * t, t, rfl, rfl⟩

/-- An equation whose terms are all of degree zero or one is drawn as one path along a straight
line: its vertices, its controls and the points that it is flattened to show points of the line that
the sums of the constants and of the linear coefficients describe. -/
theorem linear_equation_drawn_straight {text : String} {equation : Equation PartialReal}
    (read : (Equation.read text : Attempt (Event PartialReal) EquationError _).outcome =
      .ok equation) (linear : equation.IsLinear) (axis : Axis) {viewport : Viewport PartialReal}
    {sampling : Sampling PartialReal} (viewportUsable : viewport.fault? = none)
    (samplingUsable : sampling.fault? = none)
    (two : 2 ≤ (sample equation axis (inputRange axis viewport) sampling.step
      viewport).value.length) (colour : Colour) (recorder : Recorder PartialReal) :
    ∃ (level slope : ℝ) (path : StrokedPath PartialReal),
      equation.coefficientSum 0 = some level ∧ equation.coefficientSum 1 = some slope ∧
      (recorder.performAll (render
        (sample equation axis (inputRange axis viewport) sampling.step viewport).value colour
        sampling.smoothness)).displayList = recorder.displayList ++ [.path path] ∧
      (∀ point ∈ path.points, viewport.ShowsOnLine axis level slope point) ∧
      ∀ steps, ∀ point ∈ path.flatten steps, viewport.ShowsOnLine axis level slope point := by
  obtain ⟨level, slope, isLevel, isSlope, values⟩ := Equation.evaluate_of_isLinear read linear
  obtain ⟨-, smoothness, isSmoothness, -⟩ := Sampling.exists_of_fault? samplingUsable
  have onLine := showsOnLine_of_mem_sample values axis viewport (inputRange axis viewport)
    sampling.step
  generalize (sample equation axis (inputRange axis viewport) sampling.step viewport).value =
    samples at two onLine
  obtain ⟨viewport, rfl, positiveX, positiveY⟩ := Viewport.exists_eq_defined viewportUsable
  obtain ⟨direction, distance, shows⟩ :=
    Viewport.exists_showsOnLine_iff positiveX positiveY axis level slope
  have finite : ∀ point ∈ samples, point.isFinite = true := by
    intro point member
    obtain ⟨x, y, -, rfl⟩ := onLine point member
    rw [Viewport.toScreen_defined]
    rfl
  have drawn := displayList_render recorder samples colour sampling.smoothness
  rw [smoothPaths, runs_of_finite finite] at drawn
  obtain ⟨reals, rfl⟩ := Point.exists_eq_map_defined finite
  rw [List.length_map] at two
  obtain ⟨first, second, rest, rfl⟩ := exists_cons_cons two
  simp only [List.forall_mem_map, shows] at onLine
  obtain ⟨points, flattened⟩ := along_of_mem_flatten smoothness colour onLine
  refine ⟨level, slope,
    StrokedPath.defined ⟨first, runSegments smoothness first second rest, colour⟩, isLevel, isSlope,
    drawn.trans ?_, ?_, fun steps => ?_⟩
  · rw [isSmoothness, List.filterMap_cons, smoothPath_defined]
    rfl
  · rw [StrokedPath.points_defined, List.forall_mem_map]
    exact fun point member => (shows point).mpr (points point member)
  · rw [StrokedPath.flatten_defined, List.forall_mem_map]
    exact fun point member => (shows point).mpr (flattened steps point member)

/-- So is `2x - 3 + x`, drawn for `x` in the standard viewport. -/
theorem repeated_linear_drawn_straight :
    ∃ equation : Equation PartialReal,
      (Equation.read "2x-3+x" : Attempt (Event PartialReal) EquationError _).outcome =
        .ok equation ∧ equation.IsLinear ∧
      (Viewport.standard : Viewport PartialReal).fault? = none ∧
      (Sampling.standard : Sampling PartialReal).fault? = none ∧
      2 ≤ (sample equation .x (inputRange .x Viewport.standard) Sampling.standard.step
        Viewport.standard).value.length ∧
      ∃ (level slope : ℝ) (path : StrokedPath PartialReal),
        equation.coefficientSum 0 = some level ∧ equation.coefficientSum 1 = some slope ∧
        (Recorder.blank.performAll (render
          (sample equation .x (inputRange .x Viewport.standard) Sampling.standard.step
            Viewport.standard).value .red
          (Sampling.standard : Sampling PartialReal).smoothness)).displayList = [.path path] ∧
        (∀ point ∈ path.points, Viewport.standard.ShowsOnLine .x level slope point) ∧
        ∀ steps, ∀ point ∈ path.flatten steps,
          Viewport.standard.ShowsOnLine .x level slope point := by
  have read : (Equation.read "2x-3+x" :
      Attempt (Event PartialReal) EquationError _).outcome =
        .ok [.linear (Scalar.ofDecimal ⟨false, 2, 0⟩), .constant (Scalar.ofDecimal ⟨true, 3, 0⟩),
          .linear (Scalar.ofDecimal ⟨false, 1, 0⟩)] := rfl
  have linear : Equation.IsLinear [.linear (Scalar.ofDecimal ⟨false, 2, 0⟩ : PartialReal),
      .constant (Scalar.ofDecimal ⟨true, 3, 0⟩), .linear (Scalar.ofDecimal ⟨false, 1, 0⟩)] := by
    simp [Equation.IsLinear]
  have range : inputRange .x (Viewport.standard : Viewport PartialReal) = (some (-7), some 7) := by
    have lower : (some (-350) / some 50 : PartialReal) = some (-7) := by
      rw [PartialReal.div_some _ (by norm_num)]
      norm_num
    norm_num [inputRange, Viewport.standard, Viewport.rangeY, Viewport.visible, lower]
  have two (equation : Equation PartialReal) :
      2 ≤ (sample equation .x (inputRange .x Viewport.standard) Sampling.standard.step
        Viewport.standard).value.length := by
    rw [value_sample, range, Sampling.standard_eq, tabulate, inputs_some (by norm_num)]
    norm_num
  exact ⟨_, read, linear, Viewport.fault?_standard, Sampling.fault?_standard, two _, by
    simpa [Recorder.displayList, Recorder.blank] using linear_equation_drawn_straight read linear .x
      Viewport.fault?_standard Sampling.fault?_standard (two _) .red Recorder.blank⟩

end Curve
end PlaneRegion
