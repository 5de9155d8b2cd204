import PlaneRegion.Proofs.Curve.Strokes
import PlaneRegion.Proofs.Scalar.Partial

/-!
# Paths through defined points

Numbers that may be undefined are drawn like real ones as long as they are all defined: the finite
points are the real ones, and the path through real points, its controls and the points that it is
flattened to are real again.
-/

namespace PlaneRegion

open PartialReal

/-- A real point as one whose coordinates might be undefined. -/
def Point.defined (point : Point ℝ) : Point PartialReal :=
  ⟨some point.x, some point.y⟩

@[simp]
theorem Point.x_defined (point : Point ℝ) : point.defined.x = some point.x := rfl

@[simp]
theorem Point.y_defined (point : Point ℝ) : point.defined.y = some point.y := rfl

@[simp]
theorem Point.distance_defined (p q : Point ℝ) :
    p.defined.distance q.defined = some (p.distance q) := rfl

/-- The finite points are the real ones. -/
theorem Point.exists_eq_defined {point : Point PartialReal} (finite : point.isFinite = true) :
    ∃ real : Point ℝ, point = real.defined := by
  obtain ⟨x, y⟩ := point
  cases x with
  | none => cases finite
  | some x =>
      cases y with
      | none => cases finite
      | some y => exact ⟨⟨x, y⟩, rfl⟩

/-- Finite points are a list of real ones. -/
theorem Point.exists_eq_map_defined {points : List (Point PartialReal)}
    (finite : ∀ point ∈ points, point.isFinite = true) :
    ∃ reals : List (Point ℝ), points = reals.map Point.defined := by
  have inImage : points ∈ Set.range (List.map Point.defined) := by
    rw [Set.range_list_map]
    intro point member
    obtain ⟨real, rfl⟩ := exists_eq_defined (finite point member)
    exact ⟨real, rfl⟩
  obtain ⟨reals, rfl⟩ := inImage
  exact ⟨reals, rfl⟩

namespace Segment

/-- A segment between real points. -/
def defined : Segment ℝ → Segment PartialReal
  | line stop => line stop.defined
  | quadratic control stop => quadratic control.defined stop.defined
  | cubic control₁ control₂ stop => cubic control₁.defined control₂.defined stop.defined

theorem stop_defined (segment : Segment ℝ) : segment.defined.stop = segment.stop.defined := by
  cases segment <;> rfl

theorem points_defined (segment : Segment ℝ) :
    segment.defined.points = segment.points.map Point.defined := by
  cases segment <;> rfl

private theorem quadraticAt_some (t a b c : ℝ) :
    (quadraticAt (some t) (some a) (some b) (some c) : PartialReal) =
      some (quadraticAt t a b c) := by
  simp [quadraticAt]

private theorem cubicAt_some (t a b c d : ℝ) :
    (cubicAt (some t) (some a) (some b) (some c) (some d) : PartialReal) =
      some (cubicAt t a b c d) := by
  simp [cubicAt]

private theorem parameters_some (steps : Nat) :
    (parameters (max steps 1) : List PartialReal) = (parameters (max steps 1)).map some := by
  have positive : ((max steps 1 : ℕ) : ℝ) ≠ 0 := by positivity
  simp only [parameters, List.map_map]
  refine List.map_congr_left fun i _ => ?_
  simp only [ofNat_eq, Function.comp_apply, Scalar.ofNat_real]
  exact div_some _ positive

theorem flatten_defined (start : Point ℝ) (steps : Nat) (segment : Segment ℝ) :
    segment.defined.flatten start.defined steps =
      (segment.flatten start steps).map Point.defined := by
  cases segment with
  | line stop => rfl
  | quadratic control stop =>
      simp [defined, flatten, parameters_some, Point.defined, quadraticAt_some]
  | cubic control₁ control₂ stop =>
      simp [defined, flatten, parameters_some, Point.defined, cubicAt_some]

end Segment

namespace StrokedPath

/-- A path through real points. -/
def defined (path : StrokedPath ℝ) : StrokedPath PartialReal :=
  ⟨path.start.defined, path.segments.map Segment.defined, path.colour⟩

theorem points_defined (path : StrokedPath ℝ) :
    path.defined.points = path.points.map Point.defined := by
  simp only [points, defined, List.map_cons, List.flatMap_map, Segment.points_defined,
    List.map_flatMap]

theorem flatten_defined (path : StrokedPath ℝ) (steps : Nat) :
    path.defined.flatten steps = (path.flatten steps).map Point.defined := by
  obtain ⟨start, segments, colour⟩ := path
  simp only [flatten, defined, List.map_cons, List.map_flatten]
  congr 2
  induction segments generalizing start with
  | nil => rfl
  | cons segment rest induction =>
      simp [blocks, Segment.flatten_defined, Segment.stop_defined, induction]

end StrokedPath

namespace Curve

theorem controls_defined (before point after : Point ℝ) (smoothness : ℝ) :
    controls before.defined point.defined after.defined (some smoothness) =
      ((controls before point after smoothness).1.defined,
        (controls before point after smoothness).2.defined) := by
  by_cases coincide : before.distance point + point.distance after = 0
  · simp [controls, coincide]
  · simp only [controls, Point.distance_defined, add_some, ofNat_eq, equal_some, Nat.cast_zero,
      coincide, decide_false, Bool.false_eq_true, if_false, Point.x_defined, Point.y_defined,
      mul_some, div_some _ coincide, sub_some, Scalar.equal_real, Scalar.ofNat_real]
    rfl

theorem segmentsFrom_defined (smoothness : ℝ) (control before point : Point ℝ)
    (rest : List (Point ℝ)) :
    segmentsFrom (some smoothness) control.defined before.defined point.defined
        (rest.map Point.defined) =
      (segmentsFrom smoothness control before point rest).map Segment.defined := by
  induction rest generalizing control before point with
  | nil => rfl
  | cons after rest induction =>
      simp [segmentsFrom, controls_defined, induction, Segment.defined]

/-- The path through real points is real. -/
theorem smoothPath_defined (colour : Colour) (smoothness : ℝ) (run : List (Point ℝ)) :
    smoothPath colour (some smoothness) (run.map Point.defined) =
      (smoothPath colour smoothness run).map StrokedPath.defined := by
  match run with
  | [] => rfl
  | [_] => rfl
  | [first, second] => rfl
  | first :: second :: third :: rest =>
      simp [smoothPath, runSegments, controls_defined, segmentsFrom_defined, Segment.defined,
        StrokedPath.defined]

end Curve
end PlaneRegion
