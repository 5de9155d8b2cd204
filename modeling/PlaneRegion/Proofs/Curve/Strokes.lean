import Mathlib.Data.List.Chain
import Mathlib.Data.List.Forall2
import PlaneRegion.Curve.Rendering
import PlaneRegion.Proofs.Canvas.Drawing

/-!
# Strokes of axes and curves

The axes of a viewport are lines only. The samples of a curve are drawn as one path through each
maximal run of at least two finite samples.
-/

namespace PlaneRegion

/-- The points that a path passes through from its start on, controls left out. -/
def StrokedPath.vertices {α : Type} (path : StrokedPath α) : List (Point α) :=
  path.start :: path.segments.map Segment.stop

/-- All points of a path, controls included. -/
def StrokedPath.points {α : Type} (path : StrokedPath α) : List (Point α) :=
  path.start :: path.segments.flatMap Segment.points

namespace Curve

variable {α : Type} [Scalar α]

/-! ## Axes -/

/-- The lines that make up the axes of a viewport, in drawing order. -/
def axisLines (viewport : Viewport α) : List (Stroke α) :=
  (axes viewport).filterMap Call.line?

theorem draws_axes (viewport : Viewport α) :
    Recorder.Draws (axes viewport) (axisLines viewport) := by
  apply Recorder.draws_lines
  intro call member
  simp only [axes, List.mem_append, List.mem_map, List.mem_cons, List.not_mem_nil, or_false]
    at member
  rcases member with ((rfl | rfl) | ⟨_, _, rfl⟩) | ⟨_, _, rfl⟩ <;> exact ⟨_, rfl⟩

/-- No path belongs to the axes. -/
theorem path?_of_mem_axisLines {viewport : Viewport α} {stroke : Stroke α}
    (member : stroke ∈ axisLines viewport) : stroke.path? = none := by
  obtain ⟨call, _, line⟩ := List.mem_filterMap.mp member
  cases call with
  | drawLine start stop colour =>
      cases line
      rfl
  | _ => cases line

/-! ## Runs of finite points -/

/-- A list of points is cut into its maximal runs of finite points: one point that is not finite
stands between a run and the next, so a run may be empty. -/
inductive MaximalRuns : List (Point α) → List (List (Point α)) → Prop where
  /-- The points are all finite. -/
  | last {run : List (Point α)} (finite : ∀ point ∈ run, point.isFinite = true) :
      MaximalRuns run [run]
  /-- A point that is not finite ends the first run. -/
  | cut {run rest : List (Point α)} {point : Point α} {runs : List (List (Point α))}
      (finite : ∀ point ∈ run, point.isFinite = true) (infinite : point.isFinite = false)
      (later : MaximalRuns rest runs) : MaximalRuns (run ++ point :: rest) (run :: runs)

private theorem MaximalRuns.cons_finite {points run : List (Point α)} {point : Point α}
    {later : List (List (Point α))} (runs : MaximalRuns points (run :: later))
    (finite : point.isFinite = true) : MaximalRuns (point :: points) ((point :: run) :: later) := by
  cases runs with
  | last others =>
      exact .last (by simpa [finite] using others)
  | cut others infinite rest =>
      rw [← List.cons_append]
      exact .cut (by simpa [finite] using others) infinite rest

theorem MaximalRuns.isFinite {points : List (Point α)} {runs : List (List (Point α))}
    (maximal : MaximalRuns points runs) : ∀ run ∈ runs, ∀ point ∈ run, point.isFinite = true := by
  induction maximal with
  | last finite => simpa using finite
  | cut finite _ _ induction => exact List.forall_mem_cons.mpr ⟨finite, induction⟩

theorem MaximalRuns.subset {points : List (Point α)} {runs : List (List (Point α))}
    (maximal : MaximalRuns points runs) : ∀ run ∈ runs, ∀ point ∈ run, point ∈ points := by
  induction maximal with
  | last _ => simp
  | cut _ _ _ induction =>
      refine List.forall_mem_cons.mpr ⟨fun point member => List.mem_append_left _ member, ?_⟩
      intro run isRun point member
      exact List.mem_append_right _ (List.mem_cons_of_mem _ (induction run isRun point member))

/-- What holds from each point to the next holds so within a run. -/
theorem MaximalRuns.isChain {points : List (Point α)} {runs : List (List (Point α))}
    {related : Point α → Point α → Prop} (maximal : MaximalRuns points runs)
    (chain : points.IsChain related) : ∀ run ∈ runs, run.IsChain related := by
  induction maximal with
  | last _ => simpa using chain
  | cut _ _ _ induction =>
      obtain ⟨run, others, _⟩ := List.isChain_append.mp chain
      exact List.forall_mem_cons.mpr ⟨run, induction others.tail⟩

theorem runs_ne_nil (points : List (Point α)) : runs points ≠ [] := by
  cases points with
  | nil => exact List.cons_ne_nil _ _
  | cons point points =>
      rw [runs, List.foldr_cons]
      split
      · split_ifs <;> exact List.cons_ne_nil _ _
      · exact List.cons_ne_nil _ _

theorem runs_cons {points run : List (Point α)} {later : List (List (Point α))}
    (split : runs points = run :: later) (point : Point α) :
    runs (point :: points) =
      if point.isFinite then (point :: run) :: later else [] :: run :: later := by
  rw [runs] at split ⊢
  rw [List.foldr_cons, split]

theorem runs_of_finite {run : List (Point α)} (finite : ∀ point ∈ run, point.isFinite = true) :
    runs run = [run] := by
  induction run with
  | nil => rfl
  | cons point rest induction =>
      rw [List.forall_mem_cons] at finite
      rw [runs_cons (induction finite.2), if_pos finite.1]

/-- Cutting at the points that are not finite gives the maximal runs. -/
theorem maximalRuns_runs (points : List (Point α)) : MaximalRuns points (runs points) := by
  induction points with
  | nil => exact .last (by simp)
  | cons point points induction =>
      obtain ⟨run, rest, split⟩ := List.exists_cons_of_ne_nil (runs_ne_nil points)
      rw [split] at induction
      rw [runs_cons split]
      cases finite : point.isFinite with
      | true => simpa using induction.cons_finite finite
      | false =>
          rw [← List.nil_append (point :: points)]
          exact .cut (by simp) finite induction

/-! ## Paths of runs -/

/-- The smooth path through a run; a run of fewer than two points has none. -/
def smoothPath (colour : Colour) (smoothness : α) : List (Point α) → Option (StrokedPath α)
  | first :: second :: rest => some ⟨first, runSegments smoothness first second rest, colour⟩
  | _ => none

/-- The smooth paths through all runs of a list of points. -/
def smoothPaths (points : List (Point α)) (colour : Colour) (smoothness : α) :
    List (StrokedPath α) :=
  (runs points).filterMap (smoothPath colour smoothness)

/-- Every smooth path goes through a run of at least two points. -/
theorem exists_of_mem_smoothPaths {points : List (Point α)} {colour : Colour} {smoothness : α}
    {path : StrokedPath α} (member : path ∈ smoothPaths points colour smoothness) :
    ∃ first second rest, first :: second :: rest ∈ runs points ∧
      path = ⟨first, runSegments smoothness first second rest, colour⟩ := by
  obtain ⟨run, isRun, found⟩ := List.mem_filterMap.mp member
  match run, found with
  | first :: second :: rest, rfl => exact ⟨first, second, rest, isRun, rfl⟩

private theorem draws_renderRun (colour : Colour) (smoothness : α) (run : List (Point α)) :
    Recorder.Draws (renderRun colour smoothness run)
      ((smoothPath colour smoothness run).toList.map .path) := by
  match run with
  | [] => exact Recorder.draws_nil
  | [_] => exact Recorder.draws_nil
  | first :: second :: rest =>
      exact Recorder.draws_path first (runSegments smoothness first second rest) colour

theorem draws_render (points : List (Point α)) (colour : Colour) (smoothness : α) :
    Recorder.Draws (render points colour smoothness)
      ((smoothPaths points colour smoothness).map .path) := by
  have drawn := Recorder.draws_flatMap (runs points)
    fun run _ => draws_renderRun colour smoothness run
  simpa only [render, smoothPaths, List.filterMap_eq_flatMap_toList, List.map_flatMap] using drawn

private theorem map_stop_segmentsFrom (smoothness : α) (control before point : Point α)
    (rest : List (Point α)) :
    (segmentsFrom smoothness control before point rest).map Segment.stop = point :: rest := by
  induction rest generalizing control before point with
  | nil => rfl
  | cons after rest induction => simp [segmentsFrom, Segment.stop, induction]

theorem map_stop_runSegments (smoothness : α) (first second : Point α) (rest : List (Point α)) :
    (runSegments smoothness first second rest).map Segment.stop = second :: rest := by
  cases rest with
  | nil => rfl
  | cons third rest => simp [runSegments, Segment.stop, map_stop_segmentsFrom]

section Points

variable {good : Point α → Prop} {smoothness : α}

private theorem forall_points_segmentsFrom {control before point : Point α}
    {rest : List (Point α)} (goodControl : good control)
    (goodPoints : ∀ p ∈ before :: point :: rest, good p)
    (goodControls : ∀ p ∈ before :: point :: rest, ∀ q ∈ before :: point :: rest,
      ∀ r ∈ before :: point :: rest,
        good (controls p q r smoothness).1 ∧ good (controls p q r smoothness).2) :
    ∀ segment ∈ segmentsFrom smoothness control before point rest,
      ∀ p ∈ segment.points, good p := by
  induction rest generalizing control before point with
  | nil => simp_all [segmentsFrom, Segment.points]
  | cons after rest induction =>
      have around := goodControls before (by simp) point (by simp) after (by simp)
      have later := induction around.2
        (fun p member => goodPoints p (List.mem_cons_of_mem _ member))
        fun p first q second r third => goodControls p (List.mem_cons_of_mem _ first) q
          (List.mem_cons_of_mem _ second) r (List.mem_cons_of_mem _ third)
      rw [segmentsFrom, List.forall_mem_cons]
      exact ⟨by simpa [Segment.points] using ⟨goodControl, around.1, goodPoints point (by simp)⟩,
        later⟩

/-- What holds of the points of a run and of all controls between them holds of all points of its
path. -/
theorem forall_points_runSegments {first second : Point α} {rest : List (Point α)}
    (goodPoints : ∀ p ∈ first :: second :: rest, good p)
    (goodControls : ∀ p ∈ first :: second :: rest, ∀ q ∈ first :: second :: rest,
      ∀ r ∈ first :: second :: rest,
        good (controls p q r smoothness).1 ∧ good (controls p q r smoothness).2) :
    ∀ segment ∈ runSegments smoothness first second rest, ∀ p ∈ segment.points, good p := by
  cases rest with
  | nil => simpa [runSegments, Segment.points] using goodPoints second (by simp)
  | cons third rest =>
      have around := goodControls first (by simp) second (by simp) third (by simp)
      rw [runSegments, List.forall_mem_cons]
      refine ⟨by simpa [Segment.points] using ⟨around.1, goodPoints second (by simp)⟩, ?_⟩
      exact forall_points_segmentsFrom around.2
        (fun p member => goodPoints p (List.mem_cons_of_mem _ member))
        fun p first q second r third => goodControls p (List.mem_cons_of_mem _ first) q
          (List.mem_cons_of_mem _ second) r (List.mem_cons_of_mem _ third)

end Points

theorem exists_cons_cons {β : Type} {items : List β} (two : 2 ≤ items.length) :
    ∃ first second rest, items = first :: second :: rest := by
  rcases items with _ | ⟨first, _ | ⟨second, rest⟩⟩
  · cases two
  · exact absurd two (by simp)
  · exact ⟨first, second, rest, rfl⟩

/-- A run of at least two points has a path, in order; what holds of each such run and its path
holds of all of them. -/
theorem forall₂_smoothPath {related : List (Point α) → StrokedPath α → Prop} {colour : Colour}
    {smoothness : α} {runs : List (List (Point α))}
    (each : ∀ first second rest, first :: second :: rest ∈ runs →
      related (first :: second :: rest)
        ⟨first, runSegments smoothness first second rest, colour⟩) :
    List.Forall₂ related (runs.filter fun run => 2 ≤ run.length)
      (runs.filterMap (smoothPath colour smoothness)) := by
  induction runs with
  | nil => exact .nil
  | cons run runs induction =>
      have later := induction fun first second rest member =>
        each first second rest (List.mem_cons_of_mem run member)
      match run with
      | [] => simpa [List.filterMap_cons, smoothPath] using later
      | [_] => simpa [List.filterMap_cons, smoothPath] using later
      | first :: second :: rest =>
          have head := each first second rest List.mem_cons_self
          simpa [List.filterMap_cons, smoothPath] using And.intro head later

/-- The paths go, in order and in one colour, through the maximal runs of at least two points. -/
def Follow (points : List (Point α)) (colour : Colour) (paths : List (StrokedPath α)) : Prop :=
  ∃ runs, MaximalRuns points runs ∧
    List.Forall₂ (fun run path => path.vertices = run ∧ path.colour = colour)
      (runs.filter fun run => 2 ≤ run.length) paths

theorem follow_smoothPaths (points : List (Point α)) (colour : Colour) (smoothness : α) :
    Follow points colour (smoothPaths points colour smoothness) := by
  refine ⟨runs points, maximalRuns_runs points, forall₂_smoothPath fun first second rest _ => ?_⟩
  simp [StrokedPath.vertices, map_stop_runSegments]

end Curve
end PlaneRegion
