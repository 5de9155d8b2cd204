import PlaneRegion.Proofs.Canvas.Bezier
import PlaneRegion.Proofs.Curve.Defined
import PlaneRegion.Proofs.Curve.Interpolation
import PlaneRegion.Proofs.Curve.Sampling

/-!
# Drawn curves advance

The samples of a curve are equally spaced along its free variable. The controls of a sample lie in
proportion to the distances of both neighbours, so they may cross those of the next sample. Up to a
smoothness of one half, though, they stay between the samples around them, and so the drawn path
never goes back along the free variable.
-/

namespace PlaneRegion

/-- The direction on the screen in which the free variable of a row grows. -/
def Axis.direction : Axis → Point ℝ
  | .y => ⟨1, 0⟩
  | .x => ⟨0, -1⟩

/-- On the screen, the second point does not lie behind the first one along the free variable of a
row: not to the left of it for `y`, and not below it for `x`. -/
def Axis.InOrder {α : Type} [Scalar α] (axis : Axis) (first second : Point α) : Prop :=
  match axis with
  | .y => Scalar.atMost first.x second.x = true
  | .x => Scalar.atMost second.y first.y = true

theorem Axis.inOrder_defined (axis : Axis) (first second : Point ℝ) :
    axis.InOrder first.defined second.defined ↔
      axis.direction.along first ≤ axis.direction.along second := by
  cases axis <;> simp [InOrder, direction, Point.along]

namespace Curve

/-! ## Equally spaced real points -/

/-- The second point lies by the given distance further in a direction than the first. -/
def Spaced (direction : Point ℝ) (distance : ℝ) (first second : Point ℝ) : Prop :=
  direction.along second = direction.along first + distance

section Real

variable {direction before point after control : Point ℝ} {distance smoothness : ℝ}

private theorem distance_nonneg (first second : Point ℝ) : 0 ≤ first.distance second :=
  Real.sqrt_nonneg _

private theorem share_mem {before after smoothness : ℝ} (nonnegBefore : 0 ≤ before)
    (nonnegAfter : 0 ≤ after) (nonneg : 0 ≤ smoothness) :
    0 ≤ smoothness * before / (before + after) ∧
      smoothness * before / (before + after) ≤ smoothness := by
  refine ⟨by positivity, div_le_of_le_mul₀ (by positivity) nonneg ?_⟩
  exact mul_le_mul_of_nonneg_left (by linarith) nonneg

/-- Up to a smoothness of one half, the controls around a point stay between its neighbours, the
first before the point and the second after it. -/
theorem controls_between (toPoint : Spaced direction distance before point)
    (toAfter : Spaced direction distance point after) (forward : 0 ≤ distance)
    (nonneg : 0 ≤ smoothness) (atMostHalf : smoothness ≤ 1 / 2) :
    (direction.along before ≤ direction.along (controls before point after smoothness).1 ∧
      direction.along (controls before point after smoothness).1 ≤ direction.along point) ∧
    direction.along point ≤ direction.along (controls before point after smoothness).2 ∧
      direction.along (controls before point after smoothness).2 ≤ direction.along after := by
  unfold Spaced at toPoint toAfter
  by_cases coincide : before.distance point + point.distance after = 0
  · simp only [controls, Scalar.equal_real, Scalar.ofNat_real, Nat.cast_zero, coincide,
      decide_true, if_true]
    refine ⟨⟨?_, le_rfl⟩, le_rfl, ?_⟩ <;> linarith
  · obtain ⟨atLeastZero, atMostAll⟩ :=
      share_mem (distance_nonneg before point) (distance_nonneg point after) nonneg
    simp only [controls, Scalar.equal_real, Scalar.ofNat_real, Nat.cast_zero, coincide,
      decide_false, Bool.false_eq_true, if_false]
    generalize smoothness * before.distance point /
      (before.distance point + point.distance after) = share at atLeastZero atMostAll
    -- Both neighbours together are two distances apart, of which the controls take up to a half.
    have left : direction.along ⟨point.x - share * (after.x - before.x),
        point.y - share * (after.y - before.y)⟩ =
          direction.along point - share * (2 * distance) := by
      unfold Point.along at toPoint toAfter ⊢
      linear_combination -share * (toPoint + toAfter)
    have right : direction.along ⟨point.x + (smoothness - share) * (after.x - before.x),
        point.y + (smoothness - share) * (after.y - before.y)⟩ =
          direction.along point + (smoothness - share) * (2 * distance) := by
      unfold Point.along at toPoint toAfter ⊢
      linear_combination (smoothness - share) * (toPoint + toAfter)
    rw [left, right]
    have shareNonneg : 0 ≤ share * (2 * distance) := by positivity
    have restNonneg : 0 ≤ (smoothness - share) * (2 * distance) :=
      mul_nonneg (sub_nonneg.mpr atMostAll) (by positivity)
    have together : smoothness * distance ≤ 1 / 2 * distance :=
      mul_le_mul_of_nonneg_right atMostHalf forward
    refine ⟨⟨?_, ?_⟩, ?_, ?_⟩ <;> linarith

private theorem advance_segmentsFrom {rest : List (Point ℝ)}
    (spaced : (before :: point :: rest).IsChain (Spaced direction distance))
    (forward : 0 ≤ distance) (nonneg : 0 ≤ smoothness) (atMostHalf : smoothness ≤ 1 / 2)
    (afterBefore : direction.along before ≤ direction.along control)
    (beforePoint : direction.along control ≤ direction.along point) :
    StrokedPath.Advance direction before (segmentsFrom smoothness control before point rest) := by
  induction rest generalizing control before point with
  | nil =>
      refine ⟨?_, trivial⟩
      simp only [Segment.Advances, Segment.points, Segment.stop, List.forall_mem_cons]
      exact ⟨⟨afterBefore, beforePoint⟩, ⟨afterBefore.trans beforePoint, le_rfl⟩, by simp⟩
  | cons after rest induction =>
      obtain ⟨toPoint, others⟩ := List.isChain_cons_cons.mp spaced
      obtain ⟨toAfter, _⟩ := List.isChain_cons_cons.mp others
      obtain ⟨left, right⟩ := controls_between toPoint toAfter forward nonneg atMostHalf
      refine ⟨?_, induction others right.1 right.2⟩
      simp only [Segment.Advances, Segment.points, Segment.stop, List.forall_mem_cons]
      exact ⟨⟨afterBefore, beforePoint⟩, left, ⟨afterBefore.trans beforePoint, le_rfl⟩, by simp⟩

/-- The path through equally spaced points advances. -/
theorem advance_runSegments {first second : Point ℝ} {rest : List (Point ℝ)}
    (spaced : (first :: second :: rest).IsChain (Spaced direction distance))
    (forward : 0 ≤ distance) (nonneg : 0 ≤ smoothness) (atMostHalf : smoothness ≤ 1 / 2) :
    StrokedPath.Advance direction first (runSegments smoothness first second rest) := by
  obtain ⟨toSecond, others⟩ := List.isChain_cons_cons.mp spaced
  have step : direction.along first ≤ direction.along second := by
    unfold Spaced at toSecond
    linarith
  cases rest with
  | nil => exact ⟨by simpa [Segment.Advances, Segment.points, Segment.stop] using step, trivial⟩
  | cons third rest =>
      obtain ⟨toThird, _⟩ := List.isChain_cons_cons.mp others
      obtain ⟨left, right⟩ := controls_between toSecond toThird forward nonneg atMostHalf
      refine ⟨?_, advance_segmentsFrom others forward nonneg atMostHalf right.1 right.2⟩
      simp only [Segment.Advances, Segment.points, Segment.stop, List.forall_mem_cons]
      exact ⟨left, ⟨step, le_rfl⟩, by simp⟩

end Real

/-! ## The drawn paths -/

private theorem progress_defined (axis : Axis) (point : Point ℝ) :
    progress axis point.defined = some (axis.direction.along point) := by
  cases axis <;> simp [progress, Axis.direction, Point.along]

private theorem freelySpaced_defined {axis : Axis} {distance : ℝ} {first second : Point ℝ} :
    FreelySpaced axis distance first.defined second.defined ↔
      Spaced axis.direction distance first second := by
  simp only [FreelySpaced, progress_defined, Option.some.injEq, Spaced]
  exact ⟨fun ⟨_, first, second⟩ => first ▸ second, fun second => ⟨_, rfl, second⟩⟩

/-- However finely a path is flattened, it never goes back along the free variable, and it stays
between the first and the last point of its run. -/
structure Advances {α : Type} [Scalar α] (axis : Axis) (run : List (Point α))
    (path : StrokedPath α) : Prop where
  inOrder : ∀ steps, (path.flatten steps).Pairwise axis.InOrder
  between : ∀ steps, ∀ point ∈ path.flatten steps,
    (∀ first ∈ run.head?, axis.InOrder first point) ∧
      ∀ last ∈ run.getLast?, axis.InOrder point last

private theorem advances_smoothPath {axis : Axis} {distance smoothness : ℝ} {colour : Colour}
    {run : List (Point PartialReal)} {path : StrokedPath PartialReal}
    (finite : ∀ point ∈ run, point.isFinite = true)
    (spaced : run.IsChain (FreelySpaced axis distance)) (forward : 0 ≤ distance)
    (nonneg : 0 ≤ smoothness) (atMostHalf : smoothness ≤ 1 / 2)
    (found : smoothPath colour (some smoothness) run = some path) : Advances axis run path := by
  obtain ⟨reals, rfl⟩ := Point.exists_eq_map_defined finite
  rw [smoothPath_defined, Option.map_eq_some_iff] at found
  obtain ⟨real, found, rfl⟩ := found
  match reals, found with
  | first :: second :: rest, rfl =>
      simp only [List.isChain_map, freelySpaced_defined] at spaced
      have advance := advance_runSegments spaced forward nonneg atMostHalf
      have stops := map_stop_runSegments smoothness first second rest
      constructor
      · intro steps
        have pairwise := (advance.blocks steps).1
        rw [List.pairwise_map] at pairwise
        rw [StrokedPath.flatten_defined, List.pairwise_map]
        exact pairwise.imp fun inOrder => (axis.inOrder_defined _ _).mpr inOrder
      · intro steps _ member
        obtain ⟨pairwise, atMostLast⟩ := advance.blocks steps
        rw [List.map_cons, List.pairwise_cons] at pairwise
        rw [StrokedPath.flatten_defined, List.mem_map] at member
        obtain ⟨point, member, rfl⟩ := member
        constructor
        · intro start isFirst
          obtain rfl : first.defined = start := by simpa using isFirst
          rw [axis.inOrder_defined]
          rcases List.mem_cons.mp member with rfl | later
          · exact le_rfl
          · exact pairwise.1 _ (List.mem_map_of_mem later)
        · intro stop isLast
          rw [List.getLast?_map, Option.mem_def, Option.map_eq_some_iff] at isLast
          obtain ⟨last, isLast, rfl⟩ := isLast
          rw [axis.inOrder_defined]
          rw [stops] at atMostLast
          exact atMostLast last isLast _ (List.mem_map_of_mem member)

/-- Curves that are sampled at a positive step in a usable viewport and drawn with a smoothness of
at most one half never go back along their free variable. -/
theorem drawn_curves_advance {viewport : Viewport PartialReal} {sampling : Sampling PartialReal}
    (viewportUsable : viewport.fault? = none) (samplingUsable : sampling.fault? = none)
    (atMostHalf : Scalar.atMost sampling.smoothness Scalar.half = true)
    (equation : Equation PartialReal) (axis : Axis) (colour : Colour)
    (recorder : Recorder PartialReal) :
    ∃ runs paths,
      MaximalRuns (sample equation axis (inputRange axis viewport) sampling.step viewport).value
        runs ∧
      (recorder.performAll (render
        (sample equation axis (inputRange axis viewport) sampling.step viewport).value colour
        sampling.smoothness)).displayList = recorder.displayList ++ paths.map .path ∧
      List.Forall₂ (Advances axis) (runs.filter fun run => 2 ≤ run.length) paths := by
  obtain ⟨⟨step, isStep, positive⟩, smoothness, isSmoothness, nonneg⟩ :=
    Sampling.exists_of_fault? samplingUsable
  obtain ⟨distance, forward, spaced⟩ :=
    exists_freelySpaced_sample equation axis viewportUsable positive
  rw [isSmoothness, PartialReal.half_eq, PartialReal.atMost_some, decide_eq_true_eq] at atMostHalf
  rw [isStep, isSmoothness]
  generalize (sample equation axis (inputRange axis viewport) (some step) viewport).value = points
    at spaced
  have maximal := maximalRuns_runs points
  refine ⟨runs points, smoothPaths points colour (some smoothness), maximal,
    displayList_render recorder points colour (some smoothness),
    forall₂_smoothPath fun first second rest member => ?_⟩
  exact advances_smoothPath (maximal.isFinite _ member) (maximal.isChain spaced _ member) forward
    nonneg atMostHalf rfl

/-- So does the curve of `x = sqrt(y)` in the standard viewport, which is drawn over the defined
half of the visible range. -/
theorem standard_root_advances :
    (Viewport.standard : Viewport PartialReal).fault? = none ∧
      (Sampling.standard : Sampling PartialReal).fault? = none ∧
      ∃ runs paths,
        MaximalRuns (sample [.root (Scalar.ofNat 1) (Scalar.ofNat 1)] .x
          (inputRange .x Viewport.standard) Sampling.standard.step Viewport.standard).value runs ∧
        (Recorder.blank.performAll (render
          (sample [.root (Scalar.ofNat 1) (Scalar.ofNat 1)] .x (inputRange .x Viewport.standard)
            Sampling.standard.step Viewport.standard).value .red
          (Sampling.standard : Sampling PartialReal).smoothness)).displayList =
            paths.map .path ∧
        List.Forall₂ (Advances .x) (runs.filter fun run => 2 ≤ run.length) paths := by
  have atMostHalf : Scalar.atMost (Sampling.standard : Sampling PartialReal).smoothness
      Scalar.half = true := by
    norm_num [Sampling.standard_eq, PartialReal.half_eq]
  exact ⟨Viewport.fault?_standard, Sampling.fault?_standard, by
    simpa [Recorder.displayList, Recorder.blank] using
      drawn_curves_advance Viewport.fault?_standard Sampling.fault?_standard atMostHalf
        [.root (Scalar.ofNat 1) (Scalar.ofNat 1)] .x .red Recorder.blank⟩

end Curve
end PlaneRegion
