import PlaneRegion.Proofs.Session.Run
import PlaneRegion.Proofs.Session.Submission

/-!
# The invariant of a session

Whatever is done with a session, it keeps at least its first rows and usable settings; its canvas
shows the axes of the current viewport and then paths only; and its notice speaks either of a region
or of an error, in the latter case with no path on the canvas.
-/

namespace PlaneRegion

namespace Session

variable {α : Type} [Scalar α]

/-- The rows and the settings of a session can be used. -/
structure Usable (s : Session α) : Prop where
  /-- There are at least the rows of a new session. -/
  rows : initialRows.length ≤ s.rows.length
  viewport : s.viewport.fault? = none
  sampling : s.sampling.fault? = none

/-- The state in which every action leaves a session. -/
structure Consistent (s : Session α) : Prop extends Usable s where
  closed : s.canvas.openPath = none
  /-- The canvas shows the axes of the viewport, followed by paths. -/
  drawing : ∃ paths : List (StrokedPath α),
    s.canvas.displayList = Curve.axisLines s.viewport ++ paths.map .path
  /-- The notice does not describe a region and report an error at once. -/
  notice : ¬ (s.notice.region.isSome ∧ s.notice.error.isSome)
  /-- While the notice reports an error no path is shown. -/
  erased : s.notice.error.isSome → s.canvas.paths = []

theorem paths_axisLines (viewport : Viewport α) (paths : List (StrokedPath α)) :
    (Recorder.showing (Curve.axisLines viewport ++ paths.map .path)).paths = paths := by
  have none_of_axes : (Curve.axisLines viewport).filterMap Stroke.path? = [] :=
    List.filterMap_eq_nil_iff.mpr fun _ member => Curve.path?_of_mem_axisLines member
  have all_paths : Stroke.path? ∘ Stroke.path = @some (StrokedPath α) := rfl
  rw [Recorder.paths, Recorder.displayList_showing, List.filterMap_append, none_of_axes,
    List.filterMap_map, all_paths, List.filterMap_some, List.nil_append]

private theorem Usable.displaying {s : Session α} (usable : Usable s)
    (paths : List (StrokedPath α)) (notice : Notice α)
    (fits : notice.error = none ∨ notice.region = none ∧ paths = []) :
    Consistent (s.displaying (Curve.axisLines s.viewport ++ paths.map .path) notice) where
  rows := usable.rows
  viewport := usable.viewport
  sampling := usable.sampling
  closed := rfl
  drawing := ⟨paths, rfl⟩
  notice := by
    rintro ⟨region, error⟩
    change notice.region.isSome at region
    change notice.error.isSome at error
    rcases fits with fits | ⟨fits, _⟩
    · simp [fits] at error
    · simp [fits] at region
  erased := by
    intro error
    change notice.error.isSome at error
    change (Recorder.showing _).paths = []
    rcases fits with fits | ⟨_, rfl⟩
    · simp [fits] at error
    · exact paths_axisLines s.viewport []

private theorem Usable.resetAxes {s : Session α} (usable : Usable s) :
    Consistent (resetAxes s) := by
  have shown := usable.displaying [] .silent (Or.inl rfl)
  rw [resetAxes_eq]
  simpa using shown

private theorem Usable.submit {s : Session α} (usable : Usable s) :
    Consistent s.submit.value := by
  by_cases sound : ∀ row ∈ s.rows, row.IsSound α
  · obtain ⟨paths, region, _, _, value⟩ := submit_value_of_sound s sound
    rw [value]
    exact usable.displaying paths ⟨region, none⟩ (Or.inl rfl)
  · obtain ⟨error, _, value⟩ := submit_value_of_not_sound s sound
    have shown := usable.displaying [] ⟨none, some error⟩ (Or.inr ⟨rfl, rfl⟩)
    rw [value]
    simpa using shown

omit [Scalar α] in
private theorem Consistent.withRows [Scalar α] {s : Session α} (consistent : Consistent s)
    {rows : List Row} (enough : initialRows.length ≤ rows.length) :
    Consistent { s with rows } :=
  { consistent with rows := enough }

/-- The standard settings are usable. -/
theorem standard_usable :
    (Viewport.standard : Viewport Float).fault? = none ∧
      (Sampling.standard : Sampling Float).fault? = none := by
  decide

private theorem IsFresh.consistent {s : Session Float} (fresh : IsFresh s) : Consistent s := by
  cases fresh with
  | new =>
      exact Usable.resetAxes ⟨Nat.le_refl _, standard_usable.1, standard_usable.2⟩
  | withSettings viewport sampling accepted =>
      obtain ⟨viewportUsable, samplingUsable, rfl⟩ := of_withSettings_eq_ok accepted
      exact Usable.resetAxes ⟨Nat.le_refl _, viewportUsable, samplingUsable⟩

/-- Every action keeps a session consistent, whether it is refused or not. -/
theorem Consistent.next {s : Session Float} (consistent : Consistent s) (action : Action Float) :
    Consistent (s.next action) := by
  have rows := consistent.rows
  have step := s.step_act action
  generalize s.answer action = answer, s.next action = after at step ⊢
  cases step with
  | setRow _ row => exact consistent.withRows (by simpa using rows)
  | loadRows loaded =>
      refine consistent.withRows ?_
      rw [List.length_append, List.length_drop]
      omega
  | submit => exact consistent.toUsable.submit
  | clearAll => exact consistent.toUsable.resetAxes.withRows (Nat.le_refl _)
  | addRow =>
      refine consistent.withRows ?_
      rw [List.length_append]
      omega
  | removeRow enough =>
      refine Usable.submit { consistent.toUsable with rows := ?_ }
      change 2 ≤ s.rows.dropLast.length
      rw [List.length_dropLast]
      omega
  | resize usable => exact Usable.resetAxes { consistent.toUsable with viewport := usable }
  | restoreViewport =>
      exact Usable.resetAxes { consistent.toUsable with viewport := standard_usable.1 }
  | noSuchRow => exact consistent
  | tooFewRows => exact consistent
  | unusable => exact consistent

/-- The rows and the settings of every session that can be reached can be used. -/
theorem Reachable.usable {s : Session Float} (reachable : Reachable s) : Usable s := by
  have consistent : Consistent s :=
    reachable.induction (fun _ fresh => fresh.consistent) fun _ action kept => kept.next action
  exact consistent.toUsable

/-- Every session that can be reached is consistent. -/
theorem consistent_of_reachable {s : Session Float} (reachable : Reachable s) : Consistent s :=
  reachable.induction (fun _ fresh => fresh.consistent) fun _ action kept => kept.next action

/-- A run in which a faulty row is submitted and two actions are refused. -/
theorem consistent_after_refusals :
    Reachable (run (new : Session Float)
      [.setRow 1 ⟨"y", "4w"⟩, .submit, .removeRow, .resize ⟨0, 350, 25, 25⟩]) ∧
    Consistent (run (new : Session Float)
      [.setRow 1 ⟨"y", "4w"⟩, .submit, .removeRow, .resize ⟨0, 350, 25, 25⟩]) := by
  have reachable : Reachable (run (new : Session Float)
      [.setRow 1 ⟨"y", "4w"⟩, .submit, .removeRow, .resize ⟨0, 350, 25, 25⟩]) :=
    ⟨new, _, .new, rfl⟩
  exact ⟨reachable, consistent_of_reachable reachable⟩

end Session
end PlaneRegion
