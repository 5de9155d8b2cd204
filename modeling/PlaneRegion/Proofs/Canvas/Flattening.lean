import Mathlib.Data.Set.Finite.Lemmas
import PlaneRegion.Proofs.Canvas.Bezier
import PlaneRegion.Proofs.Curve.Strokes

/-!
# Flattened paths

Flattening replaces every segment of a path by a block of points that ends where the segment ends.
So the polyline passes through every vertex of the path. Its points are averages of the corners of
their segment, the start, the controls and the stop: in no direction do they lie further than all of
them.
-/

namespace PlaneRegion

/-- In each coordinate, the point lies between the least and the greatest of the corners. -/
structure Point.InBox (corners : List (Point ℝ)) (point : Point ℝ) : Prop where
  left : ∃ corner ∈ corners, corner.x ≤ point.x
  right : ∃ corner ∈ corners, point.x ≤ corner.x
  upper : ∃ corner ∈ corners, corner.y ≤ point.y
  lower : ∃ corner ∈ corners, point.y ≤ corner.y

namespace Segment

/-! ## Averages of corners -/

/-- A curve of degree two stays below what is above its ends and its control. -/
theorem quadraticAt_le {t a b c bound : ℝ} (nonneg : 0 ≤ t) (atMostOne : t ≤ 1) (first : a ≤ bound)
    (second : b ≤ bound) (third : c ≤ bound) : quadraticAt t a b c ≤ bound := by
  have left : 0 ≤ 1 - t := sub_nonneg.mpr atMostOne
  have start : 0 ≤ (1 - t) * (1 - t) * (bound - a) :=
    mul_nonneg (by positivity) (sub_nonneg.mpr first)
  have control : 0 ≤ 2 * (1 - t) * t * (bound - b) :=
    mul_nonneg (by positivity) (sub_nonneg.mpr second)
  have stop : 0 ≤ t * t * (bound - c) := mul_nonneg (by positivity) (sub_nonneg.mpr third)
  rw [quadraticAt_eq]
  linear_combination start + control + stop

/-- A curve of degree three stays below what is above its ends and its controls. -/
theorem cubicAt_le {t a b c d bound : ℝ} (nonneg : 0 ≤ t) (atMostOne : t ≤ 1) (first : a ≤ bound)
    (second : b ≤ bound) (third : c ≤ bound) (fourth : d ≤ bound) :
    cubicAt t a b c d ≤ bound := by
  have left : 0 ≤ 1 - t := sub_nonneg.mpr atMostOne
  have start : 0 ≤ (1 - t) * (1 - t) * (1 - t) * (bound - a) :=
    mul_nonneg (by positivity) (sub_nonneg.mpr first)
  have control₁ : 0 ≤ 3 * (1 - t) * (1 - t) * t * (bound - b) :=
    mul_nonneg (by positivity) (sub_nonneg.mpr second)
  have control₂ : 0 ≤ 3 * (1 - t) * t * t * (bound - c) :=
    mul_nonneg (by positivity) (sub_nonneg.mpr third)
  have stop : 0 ≤ t * t * t * (bound - d) := mul_nonneg (by positivity) (sub_nonneg.mpr fourth)
  rw [cubicAt_eq]
  linear_combination start + control₁ + control₂ + stop

variable {start : Point ℝ} {segment : Segment ℝ}

/-- What no corner of a segment exceeds in a direction, no point of it exceeds. -/
theorem along_le_of_mem_flatten {direction : Point ℝ} {bound : ℝ}
    (corners : ∀ corner ∈ start :: segment.points, direction.along corner ≤ bound) {steps : Nat}
    {point : Point ℝ} (member : point ∈ segment.flatten start steps) :
    direction.along point ≤ bound := by
  rw [List.forall_mem_cons] at corners
  obtain ⟨first, others⟩ := corners
  cases segment with
  | line stop =>
      obtain rfl := List.mem_singleton.mp member
      exact others point List.mem_cons_self
  | quadratic control stop =>
      obtain ⟨t, parameter, rfl⟩ := List.mem_map.mp member
      obtain ⟨nonneg, atMostOne⟩ := mem_parameters parameter
      rw [along_quadraticAt]
      exact quadraticAt_le nonneg atMostOne first (others control (by simp [points]))
        (others stop (by simp [points]))
  | cubic control₁ control₂ stop =>
      obtain ⟨t, parameter, rfl⟩ := List.mem_map.mp member
      obtain ⟨nonneg, atMostOne⟩ := mem_parameters parameter
      rw [along_cubicAt]
      exact cubicAt_le nonneg atMostOne first (others control₁ (by simp [points]))
        (others control₂ (by simp [points])) (others stop (by simp [points]))

/-- In every direction, some corner lies as far as a point of the segment. -/
theorem exists_corner_along (direction : Point ℝ) {steps : Nat} {point : Point ℝ}
    (member : point ∈ segment.flatten start steps) :
    ∃ corner ∈ start :: segment.points, direction.along point ≤ direction.along corner := by
  obtain ⟨corner, isCorner, furthest⟩ :=
    Set.exists_max_image {corner | corner ∈ start :: segment.points} direction.along
      (List.finite_toSet _) ⟨start, List.mem_cons_self⟩
  exact ⟨corner, isCorner, along_le_of_mem_flatten furthest member⟩

theorem inBox_of_mem_flatten {steps : Nat} {point : Point ℝ}
    (member : point ∈ segment.flatten start steps) : point.InBox (start :: segment.points) where
  left := by simpa [Point.along] using exists_corner_along ⟨-1, 0⟩ member
  right := by simpa [Point.along] using exists_corner_along ⟨1, 0⟩ member
  upper := by simpa [Point.along] using exists_corner_along ⟨0, -1⟩ member
  lower := by simpa [Point.along] using exists_corner_along ⟨0, 1⟩ member

/-! ## Blocks of points -/

/-- The segment is a straight line. -/
def isLine {α : Type} : Segment α → Bool
  | line _ => true
  | _ => false

/-- A block of points that a segment from `start` is replaced by: one for a line and one for each
step for a curve, up to the stop of the segment and within the box of its corners. -/
structure IsBlock (steps : Nat) (start : Point ℝ) (segment : Segment ℝ)
    (block : List (Point ℝ)) : Prop where
  length : block.length = if segment.isLine then 1 else max steps 1
  stop : block.getLast? = some segment.stop
  inBox : ∀ point ∈ block, point.InBox (start :: segment.points)

/-- The last of at least one step leads to the end. -/
theorem getLast?_parameters (steps : Nat) :
    (parameters (max steps 1) : List ℝ).getLast? = some 1 := by
  obtain ⟨before, count⟩ := Nat.exists_eq_add_of_le' (le_max_right steps 1)
  have whole : (before : ℝ) + 1 ≠ 0 := by positivity
  simp [parameters, count, List.range_succ, whole]

theorem isBlock_flatten (start : Point ℝ) (segment : Segment ℝ) (steps : Nat) :
    IsBlock steps start segment (segment.flatten start steps) where
  length := by cases segment <;> simp [flatten, parameters, isLine]
  stop := by
    cases segment <;>
      simp [flatten, Segment.stop, getLast?_parameters, quadraticAt_ends, cubicAt_ends]
  inBox _ member := inBox_of_mem_flatten member

end Segment

namespace StrokedPath

theorem forall₂_isBlock (steps : Nat) (start : Point ℝ) (segments : List (Segment ℝ)) :
    List.Forall₂ (fun piece block => Segment.IsBlock steps piece.1 piece.2 block)
      ((start :: segments.map Segment.stop).zip segments) (blocks steps start segments) := by
  induction segments generalizing start with
  | nil => exact .nil
  | cons segment rest induction =>
      exact .cons (Segment.isBlock_flatten start segment steps) (induction segment.stop)

/-- Blocks that end where their segments do pass through all vertices. -/
theorem sublist_flatten_blocks (steps : Nat) (start : Point ℝ) (segments : List (Segment ℝ)) :
    (segments.map Segment.stop).Sublist (blocks steps start segments).flatten := by
  induction segments generalizing start with
  | nil => exact .slnil
  | cons segment rest induction =>
      have last := (Segment.isBlock_flatten start segment steps).stop
      rw [blocks, List.flatten_cons, List.map_cons, ← List.singleton_append]
      refine List.Sublist.append ?_ (induction segment.stop)
      exact List.singleton_sublist.mpr (List.mem_of_getLast? last)

theorem length_flatten_blocks (steps : Nat) (start : Point ℝ) (segments : List (Segment ℝ)) :
    (blocks steps start segments).flatten.length =
      segments.countP Segment.isLine +
        max steps 1 * segments.countP fun segment => !segment.isLine := by
  induction segments generalizing start with
  | nil => rfl
  | cons segment rest induction =>
      have block := (Segment.isBlock_flatten start segment steps).length
      rw [blocks, List.flatten_cons, List.length_append, block, induction, List.countP_cons,
        List.countP_cons]
      cases segment.isLine <;> simp <;> ring

/-- What no point of a path exceeds in a direction, controls included, the polyline does not
exceed. -/
theorem along_le_of_mem_flatten {direction : Point ℝ} {bound : ℝ} {path : StrokedPath ℝ}
    (corners : ∀ corner ∈ path.points, direction.along corner ≤ bound) {steps : Nat}
    {point : Point ℝ} (member : point ∈ path.flatten steps) : direction.along point ≤ bound := by
  obtain ⟨start, segments, colour⟩ := path
  simp only [points, flatten] at corners member
  induction segments generalizing start with
  | nil => exact corners point member
  | cons segment rest induction =>
      simp only [List.flatMap_cons, List.forall_mem_cons, List.forall_mem_append] at corners
      obtain ⟨atStart, within, later⟩ := corners
      have stop : segment.stop ∈ segment.points := by
        cases segment <;> simp [Segment.points, Segment.stop]
      rw [blocks, List.flatten_cons, List.mem_cons, List.mem_append] at member
      rcases member with rfl | inBlock | inLater
      · exact atStart
      · exact Segment.along_le_of_mem_flatten (List.forall_mem_cons.mpr ⟨atStart, within⟩) inBlock
      · exact induction segment.stop (List.forall_mem_cons.mpr ⟨within _ stop, later⟩)
          (List.mem_cons_of_mem _ inLater)

/-- Flattening keeps a path: the polyline has a point for the start and one block of points for each
segment, which ends exactly where the segment ends and stays within the box of its start, its
controls and its stop. So all vertices of the path lie on the polyline, in order. -/
theorem flatten_keeps_path (path : StrokedPath ℝ) (steps : Nat) :
    (path.flatten steps).length =
        1 + path.segments.countP Segment.isLine +
          max steps 1 * path.segments.countP (fun segment => !segment.isLine) ∧
      path.vertices.Sublist (path.flatten steps) ∧
      ∃ blocks, path.flatten steps = path.start :: blocks.flatten ∧
        List.Forall₂ (fun piece block => Segment.IsBlock steps piece.1 piece.2 block)
          (path.vertices.zip path.segments) blocks := by
  refine ⟨?_, ?_, blocks steps path.start path.segments, rfl, forall₂_isBlock _ _ _⟩
  · rw [flatten, List.length_cons, length_flatten_blocks]
    ring
  · exact (sublist_flatten_blocks steps path.start path.segments).cons_cons path.start

end StrokedPath
end PlaneRegion
