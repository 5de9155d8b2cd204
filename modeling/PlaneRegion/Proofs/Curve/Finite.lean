import PlaneRegion.Proofs.Binary64.Hypot
import PlaneRegion.Proofs.Curve.Interpolation
import PlaneRegion.Proofs.Curve.Sampling
import PlaneRegion.Scalar.Basic

/-!
# Finite coordinates on the canvas

The points that a curve is drawn through are always finite. Its controls are computed from
differences and distances, which may overflow although the points are finite; they are finite as
long as the coordinates and the smoothness together stay below a bound.
-/

namespace PlaneRegion

open Binary64

/-- Both coordinates are finite and have at most a magnitude. -/
structure Point.IsWithin (bound : ℚ) (point : Point Float) : Prop where
  finiteX : point.x.isFinite = true
  finiteY : point.y.isFinite = true
  x_le : |rational point.x| ≤ bound
  y_le : |rational point.y| ≤ bound

namespace Curve

/-! ## Magnitudes -/

section Magnitudes

variable {n e : Int}

private theorem sub_within {x y : Float} (nonneg : 0 ≤ n) (small : n ≤ 1022)
    (finiteX : x.isFinite = true) (finiteY : y.isFinite = true) (boundX : |rational x| ≤ 2 ^ n)
    (boundY : |rational y| ≤ 2 ^ n) :
    (y - x).isFinite = true ∧ |rational (y - x)| ≤ 2 ^ (n + 1) := by
  refine (rounds_sub finiteY finiteX).within (fits_pow (by omega) (by omega)) ?_
  rw [zpow_add_one₀ (by norm_num)]
  have triangle := abs_sub (rational y) (rational x)
  linarith

/-- Distances between bounded points are finite. -/
theorem distance_le {p q : Point Float} (nonneg : 0 ≤ n) (small : n ≤ 1022)
    (first : p.IsWithin (2 ^ n)) (second : q.IsWithin (2 ^ n)) :
    (p.distance q).isFinite = true ∧ 0 ≤ rational (p.distance q) ∧
      rational (p.distance q) ≤ 3 * 2 ^ n := by
  obtain ⟨finiteWidth, width⟩ :=
    sub_within nonneg small first.finiteX second.finiteX first.x_le second.x_le
  obtain ⟨finiteHeight, height⟩ :=
    sub_within nonneg small first.finiteY second.finiteY first.y_le second.y_le
  have bounded := hypot_le finiteWidth finiteHeight width height (by omega) (by omega)
  rwa [add_sub_cancel_right] at bounded

private theorem ofNat_zero : (Scalar.ofNat 0 : Float).isFinite = true ∧
    rational (Scalar.ofNat 0 : Float) = 0 := by
  have decoded : decode (Scalar.ofNat 0 : Float) = .finite false 0 (-1074) := by decide
  exact ⟨isFinite_iff.mpr ⟨_, _, _, decoded⟩, by simp [rational, decoded, Value.rational]⟩

/-- The part of the smoothness that the control before a point takes is at most a bound of the
smoothness, also if the sum of the distances overflows: then nothing is left of it. -/
theorem share_le {smoothness before after : Float} (nonneg : 0 ≤ e) (notLarge : e ≤ 1022)
    (finiteS : smoothness.isFinite = true) (nonnegS : 0 ≤ rational smoothness)
    (boundS : rational smoothness ≤ 2 ^ e) (finiteBefore : before.isFinite = true)
    (nonnegBefore : 0 ≤ rational before) (finiteAfter : after.isFinite = true)
    (nonnegAfter : 0 ≤ rational after) (small : rational before * 2 ^ e < overflow)
    (apart : Scalar.equal (before + after) (Scalar.ofNat 0) = false) :
    (smoothness * before / (before + after)).isFinite = true ∧
      0 ≤ rational (smoothness * before / (before + after)) ∧
      rational (smoothness * before / (before + after)) ≤ 2 ^ e := by
  have power : (0 : ℚ) < 2 ^ e := by positivity
  have fits : Fits (rational before * 2 ^ e) :=
    (fits_rational finiteBefore).mul_pow nonneg (by rwa [abs_of_nonneg nonnegBefore])
  obtain ⟨finiteProduct, nonnegProduct, product⟩ := (rounds_mul finiteS finiteBefore).between
    fits_zero fits (mul_nonneg nonnegS nonnegBefore)
    (by rw [mul_comm]; exact mul_le_mul_of_nonneg_left boundS nonnegBefore)
  have atLeast := (rounds_add finiteBefore finiteAfter).lower _ (fits_rational finiteBefore)
    (le_add_of_nonneg_right nonnegAfter)
  cases decoded : decode (before + after) with
  | finite negative significand exponent =>
      rw [decoded, AtLeast] at atLeast
      have finite : (before + after).isFinite = true := isFinite_iff.mpr ⟨_, _, _, decoded⟩
      have value : rational (before + after) =
          (Value.finite negative significand exponent).rational := congrArg Value.rational decoded
      rw [← value] at atLeast
      have nonzero : rational (before + after) ≠ 0 := by
        intro zero
        have equal := (beq_iff_rational finite ofNat_zero.1).mpr (zero.trans ofNat_zero.2.symm)
        exact Bool.false_ne_true (apart.symm.trans equal)
      have positive : 0 < rational (before + after) :=
        lt_of_le_of_ne (nonnegBefore.trans atLeast) nonzero.symm
      refine (rounds_div finiteProduct finite nonzero).between fits_zero
        (fits_pow (by omega) (by omega)) (div_nonneg nonnegProduct positive.le) ?_
      rw [div_le_iff₀ positive, mul_comm]
      exact product.trans (mul_le_mul_of_nonneg_right atLeast power.le)
  | infinite negative =>
      obtain ⟨finite, zero⟩ := rational_div_of_isInf finiteProduct
        (isInf_iff.mpr ⟨negative, decoded⟩)
      exact ⟨finite, zero.ge, zero.le.trans power.le⟩
  | undefined =>
      rw [decoded] at atLeast
      cases atLeast

private theorem moved_isFinite {share coordinate before after : Float} (nonneg : 0 ≤ n)
    (nonnegE : 0 ≤ e) (small : n + e ≤ 1022) (finiteShare : share.isFinite = true)
    (boundShare : |rational share| ≤ 2 ^ e) (finite : coordinate.isFinite = true)
    (bound : |rational coordinate| ≤ 2 ^ n) (finiteBefore : before.isFinite = true)
    (boundBefore : |rational before| ≤ 2 ^ n) (finiteAfter : after.isFinite = true)
    (boundAfter : |rational after| ≤ 2 ^ n) :
    (coordinate - share * (after - before)).isFinite = true ∧
      (coordinate + share * (after - before)).isFinite = true := by
  obtain ⟨finiteWidth, width⟩ :=
    sub_within nonneg (by omega) finiteBefore finiteAfter boundBefore boundAfter
  obtain ⟨finiteMove, move⟩ := (rounds_mul finiteShare finiteWidth).within
    (fits_pow (e := e + (n + 1)) (by omega) (by omega)) (by
      rw [abs_mul, zpow_add₀ (by norm_num)]
      exact mul_le_mul boundShare width (abs_nonneg _) (by positivity))
  have fits : Fits (3 * 2 ^ (n + e)) := fits_three_mul_pow (by omega) (by omega)
  have coarser : (2 : ℚ) ^ n ≤ 2 ^ (n + e) := zpow_le_zpow_right₀ (by norm_num) (by omega)
  have doubled : (2 : ℚ) ^ (e + (n + 1)) = 2 * 2 ^ (n + e) := by
    rw [show e + (n + 1) = n + e + 1 by ring, zpow_add_one₀ (by norm_num)]
    ring
  constructor
  · have triangle := abs_sub (rational coordinate) (rational (share * (after - before)))
    exact ((rounds_sub finite finiteMove).within fits (by linarith)).1
  · have triangle := abs_add_le (rational coordinate) (rational (share * (after - before)))
    exact ((rounds_add finite finiteMove).within fits (by linarith)).1

/-- The controls around a bounded point with bounded neighbours are finite. -/
theorem controls_isFinite {before point after : Point Float} {smoothness : Float} (nonneg : 0 ≤ n)
    (nonnegE : 0 ≤ e) (small : n + e ≤ 1022) (finiteS : smoothness.isFinite = true)
    (nonnegS : 0 ≤ rational smoothness) (boundS : rational smoothness ≤ 2 ^ e)
    (boundBefore : before.IsWithin (2 ^ n)) (bound : point.IsWithin (2 ^ n))
    (boundAfter : after.IsWithin (2 ^ n)) :
    (controls before point after smoothness).1.isFinite = true ∧
      (controls before point after smoothness).2.isFinite = true := by
  obtain ⟨finiteD, nonnegD, boundD⟩ := distance_le nonneg (by omega) boundBefore bound
  obtain ⟨finiteD', nonnegD', -⟩ := distance_le nonneg (by omega) bound boundAfter
  unfold controls
  simp only
  split_ifs with coincide
  · have finite : point.isFinite = true := by
      simp [Point.isFinite, Scalar.isFinite, bound.finiteX, bound.finiteY]
    exact ⟨finite, finite⟩
  · have smallD : rational (before.distance point) * 2 ^ e < overflow := by
      have room := (fits_three_mul_pow (e := n + e) (by omega) small).1
      rw [abs_of_nonneg (by positivity), zpow_add₀ (by norm_num), ← mul_assoc] at room
      exact (mul_le_mul_of_nonneg_right boundD (by positivity)).trans_lt room
    obtain ⟨finiteShare, nonnegShare, boundShare⟩ := share_le nonnegE (by omega) finiteS nonnegS
      boundS finiteD nonnegD finiteD' nonnegD' smallD (by simpa using coincide)
    have sizeShare : |rational (smoothness * before.distance point /
        (before.distance point + point.distance after))| ≤ 2 ^ e := by
      rwa [abs_of_nonneg nonnegShare]
    obtain ⟨finiteRest, sizeRest⟩ := (rounds_sub finiteS finiteShare).within
      (fits_pow (e := e) (by omega) (by omega)) (by rw [abs_le]; constructor <;> linarith)
    have beforeX := moved_isFinite nonneg nonnegE small finiteShare sizeShare bound.finiteX
      bound.x_le boundBefore.finiteX boundBefore.x_le boundAfter.finiteX boundAfter.x_le
    have beforeY := moved_isFinite nonneg nonnegE small finiteShare sizeShare bound.finiteY
      bound.y_le boundBefore.finiteY boundBefore.y_le boundAfter.finiteY boundAfter.y_le
    have afterX := moved_isFinite nonneg nonnegE small finiteRest sizeRest bound.finiteX
      bound.x_le boundBefore.finiteX boundBefore.x_le boundAfter.finiteX boundAfter.x_le
    have afterY := moved_isFinite nonneg nonnegE small finiteRest sizeRest bound.finiteY
      bound.y_le boundBefore.finiteY boundBefore.y_le boundAfter.finiteY boundAfter.y_le
    simp only [Point.isFinite, Bool.and_eq_true]
    exact ⟨⟨beforeX.1, beforeY.1⟩, afterX.2, afterY.2⟩

end Magnitudes

/-! ## Recorded paths -/

private theorem smoothness_of_fault? {sampling : Sampling Float} (usable : sampling.fault? = none) :
    sampling.smoothness.isFinite = true ∧ 0 ≤ rational sampling.smoothness := by
  obtain ⟨-, nonneg, finite⟩ := Sampling.of_fault? usable
  have atLeast := (le_iff_rational ofNat_zero.1 finite).mp (of_decide_eq_true nonneg)
  rw [ofNat_zero.2] at atLeast
  exact ⟨finite, atLeast⟩

/-- Whatever points are rendered with a usable smoothness, every recorded path starts and ends its
segments at finite points. If the finite coordinates are at most `2 ^ n`, and the smoothness at most
`2 ^ e`, with `n + e ≤ 1022`, the controls are finite, too. -/
theorem finite_on_canvas {sampling : Sampling Float} (usable : sampling.fault? = none)
    (points : List (Point Float)) (colour : Colour) (recorder : Recorder Float) :
    ∃ paths : List (StrokedPath Float),
      (recorder.performAll (render points colour sampling.smoothness)).displayList =
        recorder.displayList ++ paths.map .path ∧
      (∀ path ∈ paths, ∀ point ∈ path.vertices, point.isFinite = true) ∧
      ∀ n e : Nat, n + e ≤ 1022 → rational sampling.smoothness ≤ 2 ^ e →
        (∀ point ∈ points, point.isFinite = true →
          |rational point.x| ≤ 2 ^ n ∧ |rational point.y| ≤ 2 ^ n) →
        ∀ path ∈ paths, ∀ point ∈ path.points, point.isFinite = true := by
  have maximal := maximalRuns_runs points
  refine ⟨smoothPaths points colour sampling.smoothness, displayList_render recorder points colour
    sampling.smoothness, ?_, ?_⟩
  · intro path member
    obtain ⟨first, second, rest, isRun, rfl⟩ := exists_of_mem_smoothPaths member
    rw [StrokedPath.vertices, map_stop_runSegments]
    exact maximal.isFinite _ isRun
  · intro n e small smooth bounded path member
    obtain ⟨first, second, rest, isRun, rfl⟩ := exists_of_mem_smoothPaths member
    obtain ⟨finiteS, nonnegS⟩ := smoothness_of_fault? usable
    have finite := maximal.isFinite _ isRun
    have within (point : Point Float) (inside : point ∈ first :: second :: rest) :
        point.IsWithin (2 ^ (n : Int)) := by
      obtain ⟨x, y⟩ := bounded point (maximal.subset _ isRun _ inside) (finite point inside)
      obtain ⟨finiteX, finiteY⟩ := Bool.and_eq_true_iff.mp (finite point inside)
      exact ⟨finiteX, finiteY, by rwa [zpow_natCast], by rwa [zpow_natCast]⟩
    have controls : ∀ segment ∈ runSegments sampling.smoothness first second rest,
        ∀ point ∈ segment.points, point.isFinite = true :=
      forall_points_runSegments finite fun p isP q isQ r isR =>
        controls_isFinite (e := e) (by omega) (by omega) (by omega) finiteS nonnegS
          (by rwa [zpow_natCast]) (within p isP) (within q isQ) (within r isR)
    rw [StrokedPath.points, List.forall_mem_cons]
    refine ⟨finite first List.mem_cons_self, fun point inside => ?_⟩
    obtain ⟨segment, isSegment, inside⟩ := List.mem_flatMap.mp inside
    exact controls segment isSegment point inside

/-- Small points, one of them undefined. -/
def smallPoints : List (Point Float) :=
  [⟨0, 0⟩, ⟨1, 2⟩, ⟨2, 0⟩, ⟨0 / 0, 1⟩, ⟨-1, -2⟩, ⟨-2, 0.5⟩]

/-- The two paths through small points have finite coordinates only. -/
theorem finite_on_canvas_of_smallPoints :
    (Sampling.standard : Sampling Float).fault? = none ∧
      ∃ paths : List (StrokedPath Float),
        (Recorder.blank.performAll
          (render smallPoints .red Sampling.standard.smoothness)).displayList =
            paths.map .path ∧
        ∀ path ∈ paths, ∀ point ∈ path.points, point.isFinite = true := by
  have usable : (Sampling.standard : Sampling Float).fault? = none := by decide +kernel
  have smooth : rational (Sampling.standard : Sampling Float).smoothness ≤ 2 ^ 0 := by
    decide +kernel
  have bounded : ∀ point ∈ smallPoints, point.isFinite = true →
      |rational point.x| ≤ 2 ^ 1 ∧ |rational point.y| ≤ 2 ^ 1 := by
    decide +kernel
  obtain ⟨paths, shown, -, finite⟩ := finite_on_canvas usable smallPoints .red Recorder.blank
  exact ⟨usable, paths, shown, finite 1 0 (by decide) smooth bounded⟩

/-- A steep run: the height of its ends apart is no finite number. -/
def steepRun : List (Point Float) :=
  [⟨0, -1e308⟩, ⟨1, 0⟩, ⟨2, 1e308⟩]

/-- Without a bound the controls need not be finite: those of a steep run of finite points are not,
in the standard sampling. -/
theorem exists_infinite_control :
    (Sampling.standard : Sampling Float).fault? = none ∧
      (∀ point ∈ steepRun, point.isFinite = true) ∧
      ∃ path ∈ (Recorder.blank.performAll
          (render steepRun .red Sampling.standard.smoothness)).paths,
        ∃ point ∈ path.points, point.isFinite = false := by
  decide +kernel

end Curve
end PlaneRegion
