import PlaneRegion.Proofs.Curve.Strokes

/-!
# Paths through runs of samples

On every canvas a curve adds one path for each maximal run of at least two finite samples, in order
and in its colour. The path goes through the points of the run and no others, and every segment of
it is known from its position: a path through two points is a line, and otherwise the first and the
last segment are quadratic, those between are cubic, and the control next to an interior point is
one of the two that the point and its neighbours determine.
-/

namespace PlaneRegion
namespace Curve

variable {α : Type} [Scalar α]

/-- The controls around the point at the position `k + 1` of a run, if it has neighbours. -/
def controlsAt? (smoothness : α) (run : List (Point α)) (k : Nat) :
    Option (Point α × Point α) := do
  return controls (← run[k]?) (← run[k + 1]?) (← run[k + 2]?) smoothness

/-- The segment between the positions `k` and `k + 1` of a run, read from the points of the run and
the controls around them; there is none if one of the positions is out of range. -/
def segmentAt? (smoothness : α) (run : List (Point α)) : Nat → Option (Segment α)
  | 0 =>
      if run.length = 2 then do return .line (← run[1]?)
      else do return .quadratic (← controlsAt? smoothness run 0).1 (← run[1]?)
  | k + 1 =>
      if k + 3 = run.length then do
        return .quadratic (← controlsAt? smoothness run k).2 (← run[k + 2]?)
      else do
        return .cubic (← controlsAt? smoothness run k).2 (← controlsAt? smoothness run (k + 1)).1
          (← run[k + 2]?)

/-- The path goes through the points of a run, with the controls that the run determines. -/
structure Interpolates (colour : Colour) (smoothness : α) (run : List (Point α))
    (path : StrokedPath α) : Prop where
  colour : path.colour = colour
  /-- The path starts at the first point of the run, and its segments end at the others in order. -/
  vertices : path.vertices = run
  /-- No position is out of range, and what is read there are the segments of the path. -/
  segments : (List.range (run.length - 1)).map (segmentAt? smoothness run) =
    path.segments.map some

/-! ## Segments by position -/

private theorem segmentAt?_cons (smoothness : α) (first : Point α) (run : List (Point α))
    (k : Nat) :
    segmentAt? smoothness (first :: run) (k + 2) = segmentAt? smoothness run (k + 1) := by
  simp [segmentAt?, controlsAt?]

private theorem map_segmentAt?_segmentsFrom (smoothness : α) (first before point : Point α)
    (rest : List (Point α)) :
    (List.range (rest.length + 1)).map
        (fun k => segmentAt? smoothness (first :: before :: point :: rest) (k + 1)) =
      (segmentsFrom smoothness (controls first before point smoothness).2 before point rest).map
        some := by
  induction rest generalizing first before point with
  | nil => simp [segmentAt?, controlsAt?, segmentsFrom]
  | cons after rest induction =>
      have head : segmentAt? smoothness (first :: before :: point :: after :: rest) 1 =
          some (.cubic (controls first before point smoothness).2
            (controls before point after smoothness).1 point) := by
        simp [segmentAt?, controlsAt?]
      have later := induction before point after
      simp only [List.length_cons, segmentsFrom, List.map_cons]
      rw [List.range_succ_eq_map, List.map_cons, List.map_map, head, ← later]
      simp [Function.comp_def, segmentAt?_cons]

/-- Read by position, the segments of a run are those that are drawn. -/
theorem map_segmentAt?_runSegments (smoothness : α) (first second : Point α)
    (rest : List (Point α)) :
    (List.range (rest.length + 1)).map (segmentAt? smoothness (first :: second :: rest)) =
      (runSegments smoothness first second rest).map some := by
  cases rest with
  | nil => simp [segmentAt?, runSegments]
  | cons third rest =>
      have head : segmentAt? smoothness (first :: second :: third :: rest) 0 =
          some (.quadratic (controls first second third smoothness).1 second) := by
        simp [segmentAt?, controlsAt?]
      have later := map_segmentAt?_segmentsFrom smoothness first second third rest
      simp only [List.length_cons, runSegments, List.map_cons]
      rw [List.range_succ_eq_map, List.map_cons, List.map_map, head, ← later]
      rfl

theorem interpolates_runSegments (colour : Colour) (smoothness : α) (first second : Point α)
    (rest : List (Point α)) :
    Interpolates colour smoothness (first :: second :: rest)
      ⟨first, runSegments smoothness first second rest, colour⟩ where
  colour := rfl
  vertices := by simp [StrokedPath.vertices, map_stop_runSegments]
  segments := map_segmentAt?_runSegments smoothness first second rest

/-- The segments of a path through a run are those that are read from the run. -/
theorem Interpolates.segmentAt? {colour : Colour} {smoothness : α} {run : List (Point α)}
    {path : StrokedPath α} (through : Interpolates colour smoothness run path) {k : Nat}
    (inside : k + 1 < run.length) : Curve.segmentAt? smoothness run k = path.segments[k]? := by
  have same := congrArg (·[k]?) through.segments
  simp only [List.getElem?_map, List.getElem?_range (Nat.lt_sub_of_add_lt inside),
    Option.map_some] at same
  cases found : path.segments[k]? with
  | none => simp [found] at same
  | some segment => simpa [found] using same

/-! ## On every canvas -/

private theorem displayList_renderRun (recorder : Recorder α) (colour : Colour) (smoothness : α)
    (run : List (Point α)) :
    (recorder.performAll (renderRun colour smoothness run)).displayList =
      recorder.displayList ++ ((smoothPath colour smoothness run).toList.map .path) := by
  match run with
  | [] => simp [renderRun, smoothPath, Recorder.performAll]
  | [_] => simp [renderRun, smoothPath, Recorder.performAll]
  | first :: second :: rest =>
      have drawn := Recorder.draws_path first (runSegments smoothness first second rest) colour
        recorder.displayList
      -- Beginning the path forgets the open one, as if there had been none.
      have forgotten : recorder.performAll (renderRun colour smoothness (first :: second :: rest)) =
          (Recorder.showing recorder.displayList).performAll
            (renderRun colour smoothness (first :: second :: rest)) := rfl
      rw [forgotten, renderRun, drawn]
      rfl

theorem displayList_render (recorder : Recorder α) (points : List (Point α)) (colour : Colour)
    (smoothness : α) :
    (recorder.performAll (render points colour smoothness)).displayList =
      recorder.displayList ++ (smoothPaths points colour smoothness).map .path := by
  unfold render smoothPaths
  generalize runs points = runs
  induction runs generalizing recorder with
  | nil => simp [Recorder.performAll]
  | cons run runs induction =>
      have drawn := displayList_renderRun recorder colour smoothness run
      have later := induction (recorder.performAll (renderRun colour smoothness run))
      have inTurn : recorder.performAll
          ((run :: runs).flatMap (renderRun colour smoothness)) =
            (recorder.performAll (renderRun colour smoothness run)).performAll
              (runs.flatMap (renderRun colour smoothness)) := by
        rw [List.flatMap_cons, Recorder.performAll, List.foldl_append]
        rfl
      rw [inTurn, later, drawn]
      simp only [List.filterMap_eq_flatMap_toList, List.flatMap_cons, List.map_append,
        List.append_assoc]

/-- On every canvas, rendering a list of points adds one path for each maximal run of at least two
finite points and nothing else, in order. Each path is in the given colour and goes through the
points of its run. -/
theorem render_interpolates (recorder : Recorder α) (points : List (Point α)) (colour : Colour)
    (smoothness : α) :
    ∃ runs paths, MaximalRuns points runs ∧
      (recorder.performAll (render points colour smoothness)).displayList =
        recorder.displayList ++ paths.map .path ∧
      List.Forall₂ (Interpolates colour smoothness) (runs.filter fun run => 2 ≤ run.length)
        paths :=
  ⟨runs points, smoothPaths points colour smoothness, maximalRuns_runs points,
    displayList_render recorder points colour smoothness,
    forall₂_smoothPath fun first second rest _ =>
      interpolates_runSegments colour smoothness first second rest⟩

end Curve
end PlaneRegion
