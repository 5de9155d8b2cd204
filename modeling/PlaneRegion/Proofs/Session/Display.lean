import PlaneRegion.Proofs.Curve.Strokes
import PlaneRegion.Proofs.Equation.Outcome
import PlaneRegion.Session.Basic

/-!
# What a session shows

An action that touches the canvas replaces the whole drawing and the notice, and keeps no trace of
what was shown before. Submitting has three ends: a row can not be drawn, the region can not be
described, or both succeed; the first two clear the canvas of all that was drawn till then.
-/

namespace PlaneRegion

variable {α : Type} [Scalar α]

/-- The row can be read as an equation for a variable. -/
structure Row.Reads (row : Row) (equation : Equation α) (axis : Axis) : Prop where
  equation : row.ReadsAs equation
  axis : Axis.ofTag row.tag = .ok axis

namespace Session

omit [Scalar α] in
/-- The same rows, viewport and sampling with another drawing and another notice. -/
def displaying (s : Session α) (strokes : List (Stroke α)) (notice : Notice α) : Session α :=
  { s with canvas := .showing strokes, notice }

theorem resetAxes_eq (s : Session α) :
    resetAxes s = s.displaying (Curve.axisLines s.viewport) .silent := by
  rw [resetAxes, Recorder.performAll_clear (Curve.draws_axes s.viewport)]
  rfl

theorem report_value (s : Session α) (error : EquationError) :
    (s.report error).value = s.displaying (Curve.axisLines s.viewport) ⟨none, some error⟩ := by
  rw [report, Traced.value_bind, Traced.value_pure, resetAxes_eq]
  rfl

omit [Scalar α] in
@[simp]
theorem perform_nil (s : Session α) : s.perform [] = s := rfl

omit [Scalar α] in
theorem perform_append (s : Session α) (first second : List (Call α)) :
    s.perform (first ++ second) = (s.perform first).perform second := by
  rw [perform, Recorder.performAll_append]
  rfl

omit [Scalar α] in
/-- Calls that draw strokes add them to those that are shown. -/
theorem perform_displaying (s : Session α) {calls : List (Call α)}
    {before strokes : List (Stroke α)} (draws : Recorder.Draws calls strokes) (notice : Notice α) :
    (s.displaying before notice).perform calls = s.displaying (before ++ strokes) notice := by
  rw [displaying, perform, draws]
  rfl

/-- What submitting leads to, by the outcomes of drawing the rows and describing the region. -/
theorem submit_value (s : Session α) :
    s.submit.value =
      match drawRows.outcome (resetAxes s) with
      | (.error error, after) =>
          after.displaying (Curve.axisLines after.viewport) ⟨none, some error⟩
      | (.ok _, after) =>
          match (Region.describe after.rows : Attempt (Event α) EquationError _).outcome with
          | .error error => after.displaying (Curve.axisLines after.viewport) ⟨none, some error⟩
          | .ok region => { after with notice := { after.notice with region } } := by
  rw [submit, Traced.value_bind]
  change (match drawRows.outcome (resetAxes s) with
    | (.error error, after) => _
    | (.ok drawn, after) => _ : Traced (Event α) (Session α)).value = _
  obtain ⟨result, after⟩ := drawRows.outcome (resetAxes s)
  cases result with
  | error error => exact report_value after error
  | ok drawn =>
      simp only [Traced.value_bind]
      change (match (Region.describe after.rows : Attempt (Event α) EquationError _).outcome with
        | .error error => _
        | .ok region => _ : Traced (Event α) (Session α)).value = _
      cases (Region.describe after.rows : Attempt (Event α) EquationError _).outcome with
      | error error => exact report_value after error
      | ok region => rfl

end Session
end PlaneRegion
