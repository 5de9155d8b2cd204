import Mathlib.Tactic.FieldSimp
import Mathlib.Tactic.Ring
import PlaneRegion.Proofs.Curve.Defined
import PlaneRegion.Proofs.Curve.Interpolation

/-!
# The way back along a curve

Samples that are drawn in the opposite order give the same paths, each run through backwards. The
share of the smoothness that the control before a sample takes belongs to the distance before it,
and the rest to the distance after it, so both controls of a sample change places with its
neighbours.
-/

namespace PlaneRegion

/-! ## Reversed paths -/

namespace Segment

variable {α : Type}

/-- The way back along a segment that begins at `start`. -/
def reversed (start : Point α) : Segment α → Segment α
  | line _ => line start
  | quadratic control _ => quadratic control start
  | cubic control₁ control₂ _ => cubic control₂ control₁ start

@[simp]
theorem stop_reversed (start : Point α) (segment : Segment α) :
    (segment.reversed start).stop = start := by
  cases segment <;> rfl

/-- The segment with the given controls, of which there may be none, one or two. -/
def withControls (first second : Option (Point α)) (stop : Point α) : Segment α :=
  match first, second with
  | none, none => line stop
  | some control, none => quadratic control stop
  | none, some control => quadratic control stop
  | some control₁, some control₂ => cubic control₁ control₂ stop

/-- The way back along a segment has its controls in the opposite order. -/
theorem reversed_withControls (first second : Option (Point α)) (start stop : Point α) :
    (withControls first second stop).reversed start = withControls second first start := by
  cases first <;> cases second <;> rfl

theorem reversed_defined (start : Point ℝ) (segment : Segment ℝ) :
    (segment.reversed start).defined = segment.defined.reversed start.defined := by
  cases segment <;> rfl

end Segment

namespace StrokedPath

variable {α : Type}

/-- The vertex at which a path ends. -/
def stop (path : StrokedPath α) : Point α :=
  path.vertices.getLast (List.cons_ne_nil _ _)

/-- The way back along a path, from its stop to its start. -/
def reversed (path : StrokedPath α) : StrokedPath α where
  start := path.stop
  segments := (List.zipWith Segment.reversed path.vertices path.segments).reverse
  colour := path.colour

private theorem map_stop_zipWith_reversed (start : Point α) (segments : List (Segment α)) :
    (List.zipWith Segment.reversed (start :: segments.map Segment.stop) segments).map
        Segment.stop = (start :: segments.map Segment.stop).dropLast := by
  induction segments generalizing start with
  | nil => rfl
  | cons segment rest induction => simpa using induction segment.stop

/-- The way back passes through the same vertices in the opposite order. -/
theorem vertices_reversed (path : StrokedPath α) :
    path.reversed.vertices = path.vertices.reverse := by
  have stops : path.reversed.segments.map Segment.stop = path.vertices.dropLast.reverse := by
    rw [reversed, List.map_reverse, vertices, map_stop_zipWith_reversed]
  have whole : path.vertices.dropLast ++ [path.stop] = path.vertices :=
    List.dropLast_append_getLast _
  rw [← whole, List.reverse_append, ← stops]
  rfl

@[simp]
theorem length_segments_reversed (path : StrokedPath α) :
    path.reversed.segments.length = path.segments.length := by
  simp [reversed, vertices]

/-- The way back along a path takes its segments from the last one on, each of them backwards. -/
theorem getElem?_segments_reversed (path : StrokedPath α) {i k : Nat}
    (opposite : i + k + 1 = path.segments.length) :
    path.reversed.segments[k]? =
      path.vertices[i]?.bind fun start => path.segments[i]?.map (Segment.reversed start) := by
  have opposed : k + i + 1 =
      (List.zipWith Segment.reversed path.vertices path.segments).length := by
    simp [vertices]
    omega
  rw [reversed, List.getElem?_reverse' opposed, List.getElem?_zipWith', Option.bind_map]
  rfl

theorem vertices_defined (path : StrokedPath ℝ) :
    path.defined.vertices = path.vertices.map Point.defined := by
  simp [vertices, defined, Function.comp_def, Segment.stop_defined]

theorem reversed_defined (path : StrokedPath ℝ) :
    path.defined.reversed = path.reversed.defined := by
  have stop : path.defined.stop = path.stop.defined := by
    simp only [StrokedPath.stop, vertices_defined, List.getLast_map]
  have segments : List.zipWith Segment.reversed path.defined.vertices path.defined.segments =
      (List.zipWith Segment.reversed path.vertices path.segments).map Segment.defined := by
    rw [vertices_defined, defined, List.zipWith_map, List.map_zipWith]
    simp only [Segment.reversed_defined]
  simp only [reversed, stop, segments, ← List.map_reverse]
  rfl

end StrokedPath

namespace Curve

/-! ## Runs of reversed points -/

section Runs

variable {α : Type} [Scalar α]

/-- A point that is not finite separates the runs before it from those behind it. -/
theorem runs_append_cons (before after : List (Point α)) {point : Point α}
    (infinite : point.isFinite = false) :
    runs (before ++ point :: after) = runs before ++ runs after := by
  induction before with
  | nil =>
      obtain ⟨run, rest, split⟩ := List.exists_cons_of_ne_nil (runs_ne_nil after)
      rw [List.nil_append, runs_cons split, split, infinite]
      rfl
  | cons first before induction =>
      obtain ⟨run, rest, split⟩ := List.exists_cons_of_ne_nil (runs_ne_nil before)
      have joined : runs (before ++ point :: after) = run :: (rest ++ runs after) := by
        rw [induction, split, List.cons_append]
      rw [List.cons_append, runs_cons joined, runs_cons split]
      split_ifs <;> rfl

theorem runs_reverse (points : List (Point α)) :
    runs points.reverse = ((runs points).map List.reverse).reverse := by
  have maximal := maximalRuns_runs points
  generalize runs points = cut at maximal
  induction maximal with
  | last finite => simpa using runs_of_finite (by simpa using finite)
  | @cut run rest point cut finite infinite _ induction =>
      have last : runs run.reverse = [run.reverse] := runs_of_finite (by simpa using finite)
      rw [List.reverse_append, List.reverse_cons, List.append_assoc, List.singleton_append,
        runs_append_cons _ _ infinite, induction, last, List.map_cons, List.reverse_cons]

end Runs

/-! ## Paths of reversed runs -/

private theorem distance_comm (p q : Point ℝ) : p.distance q = q.distance p := by
  change √((q.x - p.x) ^ 2 + (q.y - p.y) ^ 2) = √((p.x - q.x) ^ 2 + (p.y - q.y) ^ 2)
  congr 1
  ring

/-- When the neighbours of a point change places, so do its controls. -/
theorem controls_swap (before point after : Point ℝ) (smoothness : ℝ) :
    controls after point before smoothness = (controls before point after smoothness).swap := by
  have total : after.distance point + point.distance before =
      before.distance point + point.distance after := by
    rw [distance_comm after, distance_comm point before, add_comm]
  by_cases coincide : before.distance point + point.distance after = 0
  · simp [controls, total, coincide]
  · -- Both shares together are the smoothness, so each one is the rest that the other leaves.
    have share : smoothness * after.distance point /
        (before.distance point + point.distance after) =
          smoothness - smoothness * before.distance point /
            (before.distance point + point.distance after) := by
      rw [distance_comm after]
      field_simp
      ring
    simp only [controls, total, share, Scalar.equal_real, Scalar.ofNat_real, Nat.cast_zero,
      coincide, decide_false, Bool.false_eq_true, if_false, Prod.swap_prod_mk, Prod.mk.injEq,
      Point.mk.injEq]
    refine ⟨⟨?_, ?_⟩, ?_, ?_⟩ <;> ring

section Positions

variable {run : List (Point ℝ)}

/-- The control behind a position of a run; only interior points have one. -/
noncomputable def departing? (smoothness : ℝ) (run : List (Point ℝ)) : Nat → Option (Point ℝ)
  | 0 => none
  | k + 1 => (controlsAt? smoothness run k).map Prod.snd

/-- The control ahead of the position `k + 1` of a run; only interior points have one. -/
noncomputable def arriving? (smoothness : ℝ) (run : List (Point ℝ)) (k : Nat) :
    Option (Point ℝ) :=
  (controlsAt? smoothness run k).map Prod.fst

private theorem exists_controlsAt? (smoothness : ℝ) {k : Nat} (inside : k + 2 < run.length) :
    ∃ around, controlsAt? smoothness run k = some around := by
  simp [controlsAt?, inside, Nat.lt_of_succ_lt inside,
    Nat.lt_of_succ_lt (Nat.lt_of_succ_lt inside)]

private theorem controlsAt?_eq_none (smoothness : ℝ) {k : Nat} (outside : run.length ≤ k + 2) :
    controlsAt? smoothness run k = none := by
  simp [controlsAt?, outside]

private theorem segmentAt?_eq_withControls (smoothness : ℝ) {k : Nat}
    (inside : k + 1 < run.length) :
    segmentAt? smoothness run k =
      run[k + 1]?.map
        (.withControls (departing? smoothness run k) (arriving? smoothness run k)) := by
  obtain ⟨stop, there⟩ : ∃ stop, run[k + 1]? = some stop := ⟨_, List.getElem?_eq_getElem inside⟩
  rcases Nat.lt_or_ge (k + 2) run.length with interior | last
  · obtain ⟨around, controls⟩ := exists_controlsAt? smoothness interior
    cases k with
    | zero =>
        have curved : run.length ≠ 2 := by omega
        rw [zero_add] at there
        simp only [segmentAt?, curved, if_false, there, controls, arriving?]
        rfl
    | succ k =>
        obtain ⟨before, controlsBefore⟩ :=
          exists_controlsAt? smoothness (Nat.lt_of_succ_lt interior)
        have inside : k + 3 ≠ run.length := by omega
        simp only [segmentAt?, inside, if_false, there, controls, controlsBefore, arriving?,
          departing?]
        rfl
  · have missing := controlsAt?_eq_none smoothness last
    cases k with
    | zero =>
        have line : run.length = 2 := by omega
        rw [zero_add] at there
        simp only [segmentAt?, line, if_true, there, arriving?, missing]
        rfl
    | succ k =>
        obtain ⟨before, controlsBefore⟩ := exists_controlsAt? smoothness inside
        have last : k + 3 = run.length := by omega
        simp only [segmentAt?, last, if_true, there, controlsBefore, arriving?, departing?, missing]
        rfl

private theorem controlsAt?_reverse (smoothness : ℝ) {i k : Nat}
    (opposite : i + k + 3 = run.length) :
    controlsAt? smoothness run.reverse k = (controlsAt? smoothness run i).map Prod.swap := by
  have first : run.reverse[k]? = run[i + 2]? := List.getElem?_reverse' (by omega)
  have second : run.reverse[k + 1]? = run[i + 1]? := List.getElem?_reverse' (by omega)
  have third : run.reverse[k + 2]? = run[i]? := List.getElem?_reverse' (by omega)
  simp only [controlsAt?, first, second, third,
    List.getElem?_eq_getElem (show i < run.length by omega),
    List.getElem?_eq_getElem (show i + 1 < run.length by omega),
    List.getElem?_eq_getElem (show i + 2 < run.length by omega)]
  exact congrArg some (controls_swap _ _ _ _)

private theorem departing?_reverse (smoothness : ℝ) {i k : Nat}
    (opposite : i + k + 2 = run.length) :
    departing? smoothness run.reverse k = arriving? smoothness run i := by
  cases k with
  | zero =>
      rw [arriving?, controlsAt?_eq_none smoothness (by omega)]
      rfl
  | succ k =>
      rw [departing?, arriving?, controlsAt?_reverse smoothness (i := i) (by omega),
        Option.map_map]
      rfl

private theorem arriving?_reverse (smoothness : ℝ) {i k : Nat}
    (opposite : i + k + 2 = run.length) :
    arriving? smoothness run.reverse k = departing? smoothness run i := by
  have back : departing? smoothness run.reverse.reverse i = arriving? smoothness run.reverse k :=
    departing?_reverse smoothness (by rw [List.length_reverse]; omega)
  rw [← back, List.reverse_reverse]

private theorem segmentAt?_reverse (smoothness : ℝ) {i k : Nat}
    (opposite : i + k + 2 = run.length) :
    segmentAt? smoothness run.reverse k =
      run[i]?.bind fun start => (segmentAt? smoothness run i).map (Segment.reversed start) := by
  have start : run.reverse[k + 1]? = run[i]? := List.getElem?_reverse' (by omega)
  have stop : run[i + 1]? = some run[i + 1] := List.getElem?_eq_getElem (by omega)
  rw [segmentAt?_eq_withControls smoothness (by rw [List.length_reverse]; omega),
    segmentAt?_eq_withControls smoothness (by omega), departing?_reverse smoothness opposite,
    arriving?_reverse smoothness opposite, start, stop]
  simp only [Option.map_some, Segment.reversed_withControls]
  exact Option.map_eq_bind

end Positions

/-- The way back along the path through a run goes through the reversed run. -/
theorem Interpolates.reversed {colour : Colour} {smoothness : ℝ} {run : List (Point ℝ)}
    {path : StrokedPath ℝ} (through : Interpolates colour smoothness run path) :
    Interpolates colour smoothness run.reverse path.reversed where
  colour := through.colour
  vertices := by rw [path.vertices_reversed, through.vertices]
  segments := by
    have count : run.length = path.segments.length + 1 := by
      rw [← through.vertices, StrokedPath.vertices, List.length_cons, List.length_map]
    refine List.ext_getElem (by simp [count]) fun k _ inside => ?_
    rw [List.length_map, path.length_segments_reversed] at inside
    obtain ⟨i, opposite⟩ : ∃ i, i + k + 1 = path.segments.length :=
      ⟨path.segments.length - (k + 1), by omega⟩
    rw [List.getElem_map, List.getElem_range, List.getElem_map, ← List.getElem?_eq_getElem,
      path.getElem?_segments_reversed opposite, segmentAt?_reverse smoothness (i := i) (by omega),
      through.segmentAt? (by omega), through.vertices]

/-- A run determines the path through it. -/
theorem Interpolates.unique {α : Type} [Scalar α] {colour : Colour} {smoothness : α}
    {run : List (Point α)} {first second : StrokedPath α}
    (one : Interpolates colour smoothness run first)
    (other : Interpolates colour smoothness run second) : first = second := by
  obtain ⟨start, segments, _⟩ := first
  obtain ⟨otherStart, otherSegments, _⟩ := second
  obtain rfl := one.colour.trans other.colour.symm
  obtain ⟨rfl, -⟩ := List.cons.inj (one.vertices.trans other.vertices.symm)
  obtain rfl := List.map_injective_iff.mpr (Option.some_injective _)
    (one.segments.symm.trans other.segments)
  rfl

/-- The path through a reversed run is the way back along the path through the run. -/
theorem smoothPath_reverse (colour : Colour) (smoothness : ℝ) (run : List (Point ℝ)) :
    smoothPath colour smoothness run.reverse =
      (smoothPath colour smoothness run).map StrokedPath.reversed := by
  match run with
  | [] => rfl
  | [_] => rfl
  | first :: second :: rest =>
      have back := (interpolates_runSegments colour smoothness first second rest).reversed
      have two : 2 ≤ (first :: second :: rest).reverse.length := by simp
      obtain ⟨last, before, others, reverse⟩ := exists_cons_cons two
      rw [reverse] at back ⊢
      have through := interpolates_runSegments colour smoothness last before others
      exact congrArg some (through.unique back)

/-- Reversed points have the reversed paths, in the opposite order. -/
theorem smoothPaths_reverse (points : List (Point PartialReal)) (colour : Colour)
    (smoothness : ℝ) :
    smoothPaths points.reverse colour (some smoothness) =
      ((smoothPaths points colour (some smoothness)).map StrokedPath.reversed).reverse := by
  have each : ∀ run ∈ runs points, smoothPath colour (some smoothness) run.reverse =
      (smoothPath colour (some smoothness) run).map StrokedPath.reversed := by
    intro run member
    obtain ⟨reals, rfl⟩ :=
      Point.exists_eq_map_defined ((maximalRuns_runs points).isFinite run member)
    rw [← List.map_reverse, smoothPath_defined, smoothPath_defined, smoothPath_reverse]
    simp [Function.comp_def, StrokedPath.reversed_defined]
  rw [smoothPaths, smoothPaths, runs_reverse, List.filterMap_reverse, List.filterMap_map,
    List.map_filterMap]
  congr 1
  exact List.filterMap_congr each

/-- On every canvas, rendering the samples in the opposite order adds the same paths in the opposite
order, each of them run through backwards. -/
theorem render_reversed (recorder : Recorder PartialReal) (points : List (Point PartialReal))
    (colour : Colour) (smoothness : ℝ) :
    ∃ paths : List (StrokedPath PartialReal),
      (recorder.performAll (render points colour (some smoothness))).displayList =
        recorder.displayList ++ paths.map .path ∧
      (recorder.performAll (render points.reverse colour (some smoothness))).displayList =
        recorder.displayList ++ (paths.map StrokedPath.reversed).reverse.map .path :=
  ⟨smoothPaths points colour (some smoothness),
    displayList_render recorder points colour (some smoothness), by
      rw [displayList_render, smoothPaths_reverse]⟩

end Curve
end PlaneRegion
