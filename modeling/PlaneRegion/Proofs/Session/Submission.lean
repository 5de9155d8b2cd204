import PlaneRegion.Proofs.Session.Drawing
import PlaneRegion.Scalar.Basic

/-!
# Submissions

A submission shows the axes and the curves of all rows, together with the region that the rows
enclose. If some row can not be read it shows the axes alone and names the first such row: the
curves of the rows before it have been drawn by then, and are removed.
-/

namespace PlaneRegion

variable {α : Type} [Scalar α]

namespace Session

/-- Rows that can all be read enclose a region, or none, without a failure. -/
theorem exists_outcome_describe_of_sound {rows : List Row} (sound : ∀ row ∈ rows, row.IsSound α) :
    ∃ region, (Region.describe rows : Attempt (Event α) EquationError _).outcome = .ok region := by
  cases described : (Region.describe rows : Attempt (Event α) EquationError _).outcome with
  | ok region => exact ⟨region, rfl⟩
  | error error =>
      obtain ⟨row, member, filled, refused⟩ := Region.exists_row_of_describe_error described
      rcases sound row member with blank | ⟨equation, axis, reads⟩
      · rw [filled] at blank
        cases blank
      · rw [reads.equation] at refused
        cases refused

/-- A submission shows the strokes that its calls draw behind the axes. -/
theorem submit_value_of_drawn (s : Session α) {drawn : Nat} {calls : List (Call α)}
    {strokes : List (Stroke α)} {region : Option (Region α)}
    (drawing : drawRows.outcome (resetAxes s) = (.ok drawn, (resetAxes s).perform calls))
    (draws : Recorder.Draws calls strokes)
    (described : (Region.describe s.rows : Attempt (Event α) EquationError _).outcome =
      .ok region) :
    s.submit.value =
      s.displaying (Curve.axisLines s.viewport ++ strokes) ⟨region, none⟩ := by
  have kept : (s.displaying (Curve.axisLines s.viewport ++ strokes) .silent).rows = s.rows := rfl
  rw [submit_value, drawing, resetAxes_eq, perform_displaying s draws]
  simp only [kept, described]
  rfl

/-- Rows that can all be read leave no error, neither for drawing nor for describing. -/
theorem submit_value_of_sound (s : Session α) (sound : ∀ row ∈ s.rows, row.IsSound α) :
    ∃ paths region, s.RowsFollow paths ∧
      (Region.describe s.rows : Attempt (Event α) EquationError _).outcome = .ok region ∧
      s.submit.value =
        s.displaying (Curve.axisLines s.viewport ++ paths.map .path) ⟨region, none⟩ := by
  obtain ⟨calls, paths, follow, draws, drawn⟩ := (resetAxes s).outcome_drawRows_of_sound sound
  obtain ⟨region, described⟩ := exists_outcome_describe_of_sound sound
  exact ⟨paths, region, follow, described, s.submit_value_of_drawn drawn draws described⟩

/-- A row that can not be read leaves the axes and the error of the first such row: the paths of the
rows before it are on the canvas when it is met, and are removed again. -/
theorem submit_value_of_firstFault (s : Session α) {error : EquationError}
    (fault : FirstFault α s.rows error) :
    s.submit.value = s.displaying (Curve.axisLines s.viewport) ⟨none, some error⟩ := by
  obtain ⟨_, calls, _, _, _, _, drawn⟩ := (resetAxes s).outcome_drawRows_of_firstFault fault
  rw [submit_value, drawn, resetAxes_eq]
  rfl

theorem submit_value_of_not_sound (s : Session α) (unsound : ¬ ∀ row ∈ s.rows, row.IsSound α) :
    ∃ error, FirstFault α s.rows error ∧
      s.submit.value = s.displaying (Curve.axisLines s.viewport) ⟨none, some error⟩ := by
  obtain ⟨error, fault⟩ := (forall_isSound_or_firstFault s.rows).resolve_left unsound
  exact ⟨error, fault, s.submit_value_of_firstFault fault⟩

/-- A submission keeps the rows and the settings. -/
theorem submit_keeps (s : Session α) :
    s.submit.value.rows = s.rows ∧ s.submit.value.viewport = s.viewport ∧
      s.submit.value.sampling = s.sampling := by
  by_cases sound : ∀ row ∈ s.rows, row.IsSound α
  · obtain ⟨_, _, _, _, value⟩ := submit_value_of_sound s sound
    rw [value]
    exact ⟨rfl, rfl, rfl⟩
  · obtain ⟨_, _, value⟩ := submit_value_of_not_sound s sound
    rw [value]
    exact ⟨rfl, rfl, rfl⟩

/-- The journal of a submission whose rows can be drawn and whose region can be described holds no
refusal beside what is met while drawing and describing. -/
theorem submit_eq_of_described (s : Session α) {drawn : Nat} {after : Session α}
    {region : Option (Region α)}
    (drawing : drawRows.outcome (resetAxes s) = (.ok drawn, after))
    (described : (Region.describe after.rows : Attempt (Event α) EquationError _).outcome =
      .ok region) :
    s.submit =
      { value := { after with notice := { after.notice with region } }
        events :=
          (drawRows.settle (resetAxes s)).events ++ .curvesDrawn drawn ::
            (Region.describe after.rows : Attempt (Event α) EquationError _).settle.events } := by
  obtain ⟨first, drawing⟩ : ∃ events,
      drawRows.settle (resetAxes s) = ⟨(.ok drawn, after), events⟩ :=
    ⟨_, congrArg (Traced.mk · _) drawing⟩
  obtain ⟨later, describing⟩ : ∃ events,
      (Region.describe after.rows : Attempt (Event α) EquationError _).settle =
        ⟨.ok region, events⟩ := ⟨_, congrArg (Traced.mk · _) described⟩
  rw [submit]
  simp only [drawing, describing, Traced.mk_bind, Traced.record, Traced.value_pure,
    Traced.events_pure, List.append_nil, List.singleton_append]

/-- Describing a region fails only with the error of the equation of a row that is not blank. Such a
row is refused when it is drawn, so once all rows have been drawn a submission ends with the region
that is described, and refuses nothing. -/
theorem describing_fails_only_with_a_row :
    (∀ (rows : List Row) (failure : EquationError),
      (Region.describe rows : Attempt (Event α) EquationError _).outcome = .error failure →
        ∃ row ∈ rows, row.isBlank = false ∧
          (Equation.read row.equation : Attempt (Event α) EquationError (Equation α)).outcome =
            .error failure) ∧
    ∀ (s after : Session α) (drawn : Nat),
      drawRows.outcome (resetAxes s) = (.ok drawn, after) →
      ∃ region,
        (Region.describe s.rows : Attempt (Event α) EquationError _).outcome = .ok region ∧
        s.submit =
          { value := { s with canvas := after.canvas, notice := ⟨region, none⟩ }
            events :=
              (drawRows.settle (resetAxes s)).events ++
                .curvesDrawn (s.rows.countP fun row => !row.isBlank) ::
                  (Region.describe s.rows : Attempt (Event α) EquationError _).settle.events } := by
  refine ⟨fun rows failure failed => Region.exists_row_of_describe_error failed, ?_⟩
  intro s after drawn drawing
  have sound : ∀ row ∈ s.rows, row.IsSound α := by
    rcases forall_isSound_or_firstFault (α := α) s.rows with sound | ⟨error, fault⟩
    · exact sound
    · obtain ⟨_, _, _, _, _, _, failed⟩ := (resetAxes s).outcome_drawRows_of_firstFault fault
      cases drawing.symm.trans failed
  obtain ⟨calls, _, _, _, counted⟩ := (resetAxes s).outcome_drawRows_of_sound sound
  obtain ⟨region, described⟩ := exists_outcome_describe_of_sound sound
  cases drawing.symm.trans counted
  exact ⟨region, described, submit_eq_of_described s counted described⟩

/-- An invalid equation between blanks is refused with its term; a parabola and a level line are
drawn, and then a region is described. -/
theorem describing_fails_with_a_bad_line :
    (∃ failure,
      (Region.describe [⟨"y", "x^2"⟩, ⟨"y", " 4q "⟩] :
        Attempt (Event Float) EquationError _).outcome = .error failure ∧
      ∃ row ∈ [(⟨"y", "x^2"⟩ : Row), ⟨"y", " 4q "⟩], row.isBlank = false ∧
        (Equation.read row.equation : Attempt (Event Float) EquationError _).outcome =
          .error failure) ∧
    let s : Session Float := { new with rows := [⟨"y", "x^2"⟩, ⟨"y", "4"⟩] }
    ∃ after region, drawRows.outcome (resetAxes s) = (.ok 2, after) ∧
      (Region.describe s.rows : Attempt (Event Float) EquationError _).outcome = .ok region ∧
      s.submit.value.notice = ⟨region, none⟩ := by
  constructor
  · have failed : (Region.describe [⟨"y", "x^2"⟩, ⟨"y", " 4q "⟩] :
        Attempt (Event Float) EquationError _).outcome = .error ⟨"4q"⟩ := by
      decide +kernel
    exact ⟨_, failed, describing_fails_only_with_a_row.1 _ _ failed⟩
  · intro s
    have sound : ∀ row ∈ s.rows, row.IsSound Float := by
      intro row member
      rcases List.mem_pair.mp member with rfl | rfl
      · exact Or.inr ⟨[.power 1 2], .y, by decide +kernel, by decide⟩
      · exact Or.inr ⟨[.constant 4], .y, by decide +kernel, by decide⟩
    obtain ⟨calls, _, _, _, drawn⟩ := (resetAxes s).outcome_drawRows_of_sound sound
    obtain ⟨region, described, submitted⟩ := describing_fails_only_with_a_row.2 s _ _ drawn
    exact ⟨_, region, drawn, described, by rw [submitted]⟩

end Session
end PlaneRegion
