import PlaneRegion.Proofs.Session.Invariant

/-!
# What a session forgets

A submission depends on the rows and the settings alone, and clearing leaves the settings alone:
what was drawn or reported before, and how the session came to its state, has no influence on what
follows.
-/

namespace PlaneRegion

namespace Session

variable {α : Type} [Scalar α]

/-- The answers to a list of actions done one after the other, each with the session that it
leaves. -/
def outcomes (s : Session α) : List (Action α) → List (Except (Refusal α) Unit × Session α)
  | [] => []
  | action :: actions => (act action).outcome s :: (s.next action).outcomes actions

/-- Nothing of the past of a session but its rows and settings has an influence on its future. -/
structure Forgetful (s : Session α) : Prop where
  /-- A session that is cleared is the fresh one with the same settings. -/
  cleared : withSettings s.viewport s.sampling = .ok s.clearAll
  /-- It answers to all actions as the fresh one does, and goes through the same states. -/
  replayed : ∀ fresh, withSettings s.viewport s.sampling = .ok fresh → ∀ actions,
    s.clearAll.outcomes actions = fresh.outcomes actions ∧
      s.clearAll.run actions = fresh.run actions
  /-- A second submission changes nothing. -/
  resubmitted : s.submit.value.submit.value = s.submit.value
  /-- Equal rows and settings lead to equal states, whatever is shown before. -/
  submitted : ∀ other : Session α, other.rows = s.rows → other.viewport = s.viewport →
    other.sampling = s.sampling → other.submit.value = s.submit.value
  /-- A row that is added and removed at once leaves a submission. -/
  removed : removeRow.outcome s.addRow = (.ok (), s.submit.value)

/-- Equal rows and settings are all that the axes and the silence after a reset depend on. -/
theorem resetAxes_congr {s other : Session α} (rows : other.rows = s.rows)
    (viewport : other.viewport = s.viewport) (sampling : other.sampling = s.sampling) :
    resetAxes other = resetAxes s := by
  rw [resetAxes_eq, resetAxes_eq, viewport]
  cases s
  cases other
  cases rows
  cases viewport
  cases sampling
  rfl

/-- A submission begins with a reset, so it depends on the rows and the settings alone. -/
theorem submit_congr {s other : Session α} (rows : other.rows = s.rows)
    (viewport : other.viewport = s.viewport) (sampling : other.sampling = s.sampling) :
    other.submit = s.submit := by
  rw [submit, submit, resetAxes_congr rows viewport sampling]

theorem submit_submit (s : Session α) : s.submit.value.submit = s.submit := by
  obtain ⟨rows, viewport, sampling⟩ := s.submit_keeps
  exact submit_congr rows viewport sampling

/-- Usable settings are accepted, and what they give is the cleared session. -/
theorem withSettings_of_usable {s : Session α} (usable : Usable s) :
    withSettings s.viewport s.sampling = .ok s.clearAll := by
  rw [withSettings_eq_ok usable.viewport usable.sampling, clearAll, resetAxes_eq, resetAxes_eq]
  rfl

/-- The row that is removed is the one that was added. -/
theorem removeRow_addRow {s : Session α} (enough : initialRows.length ≤ s.rows.length) :
    removeRow.outcome s.addRow = (.ok (), s.submit.value) := by
  have rows : 3 ≤ s.addRow.rows.length := by
    rw [addRow, List.length_append, List.length_singleton]
    exact Nat.succ_le_succ enough
  have kept : s.addRow.rows.dropLast = s.rows := List.dropLast_concat
  rw [outcome_removeRow_of_le rows, kept]
  rfl

/-- Every session that can be reached has forgotten how it was. -/
theorem forgetful_of_reachable {s : Session Float} (reachable : Reachable s) : Forgetful s where
  cleared := withSettings_of_usable reachable.usable
  replayed := by
    intro fresh accepted actions
    rw [withSettings_of_usable reachable.usable] at accepted
    cases accepted
    exact ⟨rfl, rfl⟩
  resubmitted := by rw [submit_submit]
  submitted := by
    intro other rows viewport sampling
    rw [submit_congr rows viewport sampling]
  removed := removeRow_addRow reachable.usable.rows

/-- A run that leaves the axes of another viewport, a row too many and an error behind. -/
theorem forgetful_after_faulty_submission :
    Reachable (run (new : Session Float)
      [.addRow, .setRow 2 ⟨"y", "4w"⟩, .submit, .resize ⟨800, 400, 10, 10⟩, .submit]) ∧
    Forgetful (run (new : Session Float)
      [.addRow, .setRow 2 ⟨"y", "4w"⟩, .submit, .resize ⟨800, 400, 10, 10⟩, .submit]) := by
  have reachable : Reachable (run (new : Session Float)
      [.addRow, .setRow 2 ⟨"y", "4w"⟩, .submit, .resize ⟨800, 400, 10, 10⟩, .submit]) :=
    ⟨new, _, .new, rfl⟩
  exact ⟨reachable, forgetful_of_reachable reachable⟩

end Session
end PlaneRegion
