import PlaneRegion.Scalar.Basic
import PlaneRegion.Session.Basic

/-!
# Runs of a session

A session is begun afresh or with given settings, and goes on by actions. Each action has an answer
and leaves a session behind, also when it is refused.
-/

namespace PlaneRegion

/-- One thing that can be done with a session. -/
inductive Action (α : Type) where
  | setRow (index : Nat) (row : Row)
  /-- Fill in rows from the first one on. -/
  | loadRows (rows : List Row)
  /-- Draw all rows and describe the region. -/
  | submit
  /-- Go back to empty rows and an empty canvas. -/
  | clearAll
  | addRow
  | removeRow
  | resize (viewport : Viewport α)
  /-- Go back to the standard viewport. -/
  | restoreViewport
  deriving DecidableEq, Repr

namespace Session

variable {α : Type} [Scalar α]

/-- Do one thing with a session, unless it is refused. -/
def act : Action α → Change (Event α) (Session α) (Refusal α) Unit
  | .setRow index row => setRow index row
  | .loadRows rows => modify (·.loadRows rows)
  | .submit => Change.ofTraced submit
  | .clearAll => modify clearAll
  | .addRow => modify addRow
  | .removeRow => removeRow
  | .resize viewport => resize viewport
  | .restoreViewport => modify restoreViewport

/-- The answer to an action. -/
def answer (s : Session α) (action : Action α) : Except (Refusal α) Unit :=
  ((act action).outcome s).1

/-- The session that an action leaves, whether it is refused or not. -/
def next (s : Session α) (action : Action α) : Session α :=
  ((act action).outcome s).2

/-- The session after a list of actions. -/
def run (s : Session α) (actions : List (Action α)) : Session α :=
  actions.foldl next s

/-! ## What an action does -/

omit [Scalar α] in
theorem outcome_setRow_of_lt {s : Session α} {index : Nat} (inside : index < s.rows.length)
    (row : Row) :
    (setRow index row).outcome s = (.ok (), { s with rows := s.rows.set index row }) := by
  rw [setRow, Change.outcome_bind_of_ok (Change.outcome_get s), if_pos inside]
  rfl

omit [Scalar α] in
theorem outcome_setRow_of_le {s : Session α} {index : Nat} (outside : s.rows.length ≤ index)
    (row : Row) :
    (setRow index row).outcome s = (.error (.rowOutOfRange index s.rows.length), s) := by
  rw [setRow, Change.outcome_bind_of_ok (Change.outcome_get s), if_neg (Nat.not_lt_of_le outside)]
  rfl

theorem outcome_resize_of_usable {viewport : Viewport α} (usable : viewport.fault? = none)
    (s : Session α) :
    (resize viewport).outcome s = (.ok (), resetAxes { s with viewport }) := by
  rw [resize, usable]
  rfl

theorem outcome_resize_of_fault {viewport : Viewport α} {fault : ViewportFault α}
    (found : viewport.fault? = some fault) (s : Session α) :
    (resize viewport).outcome s = (.error (.viewport fault), s) := by
  rw [resize, found]
  rfl

theorem outcome_removeRow_of_le {s : Session α} (enough : 3 ≤ s.rows.length) :
    removeRow.outcome s = (.ok (), (submit { s with rows := s.rows.dropLast }).value) := by
  rw [removeRow, Change.outcome_bind_of_ok (Change.outcome_get s),
    if_neg (Nat.not_lt_of_le enough)]
  rfl

theorem outcome_removeRow_of_lt {s : Session α} (few : s.rows.length < 3) :
    removeRow.outcome s = (.error (.tooFewRows s.rows.length), s) := by
  rw [removeRow, Change.outcome_bind_of_ok (Change.outcome_get s), if_pos few]
  rfl

/-- One action, the answer to it and the session that it leaves: it is carried out, or it is refused
for a reason that holds and leaves the session as it was. -/
inductive Step (s : Session α) : Action α → Except (Refusal α) Unit → Session α → Prop where
  | setRow {index : Nat} (inside : index < s.rows.length) (row : Row) :
      Step s (.setRow index row) (.ok ()) { s with rows := s.rows.set index row }
  | noSuchRow {index : Nat} (outside : s.rows.length ≤ index) (row : Row) :
      Step s (.setRow index row) (.error (.rowOutOfRange index s.rows.length)) s
  | loadRows (rows : List Row) : Step s (.loadRows rows) (.ok ()) (s.loadRows rows)
  | submit : Step s .submit (.ok ()) s.submit.value
  | clearAll : Step s .clearAll (.ok ()) s.clearAll
  | addRow : Step s .addRow (.ok ()) s.addRow
  | removeRow (enough : 3 ≤ s.rows.length) :
      Step s .removeRow (.ok ()) (Session.submit { s with rows := s.rows.dropLast }).value
  | tooFewRows (few : s.rows.length < 3) :
      Step s .removeRow (.error (.tooFewRows s.rows.length)) s
  | resize {viewport : Viewport α} (usable : viewport.fault? = none) :
      Step s (.resize viewport) (.ok ()) (resetAxes { s with viewport })
  | unusable {viewport : Viewport α} {fault : ViewportFault α}
      (found : viewport.fault? = some fault) :
      Step s (.resize viewport) (.error (.viewport fault)) s
  | restoreViewport : Step s .restoreViewport (.ok ()) s.restoreViewport

theorem step_act (s : Session α) (action : Action α) :
    Step s action (s.answer action) (s.next action) := by
  unfold answer next
  cases action with
  | setRow index row =>
      rcases Nat.lt_or_ge index s.rows.length with inside | outside
      · rw [act, outcome_setRow_of_lt inside]
        exact .setRow inside row
      · rw [act, outcome_setRow_of_le outside]
        exact .noSuchRow outside row
  | loadRows rows => exact .loadRows rows
  | submit => exact .submit
  | clearAll => exact .clearAll
  | addRow => exact .addRow
  | removeRow =>
      rcases Nat.lt_or_ge s.rows.length 3 with few | enough
      · rw [act, outcome_removeRow_of_lt few]
        exact .tooFewRows few
      · rw [act, outcome_removeRow_of_le enough]
        exact .removeRow enough
  | resize viewport =>
      cases fault : viewport.fault? with
      | none =>
          rw [act, outcome_resize_of_usable fault]
          exact .resize fault
      | some found =>
          rw [act, outcome_resize_of_fault fault]
          exact .unusable fault
  | restoreViewport => exact .restoreViewport

/-- Settings without a fault are accepted. -/
theorem withSettings_eq_ok {viewport : Viewport α} {sampling : Sampling α}
    (viewportUsable : viewport.fault? = none) (samplingUsable : sampling.fault? = none) :
    withSettings viewport sampling = .ok (resetAxes { new with viewport, sampling }) := by
  rw [withSettings, samplingUsable]
  simp only [outcome_resize_of_usable viewportUsable]

/-- Settings that are accepted have no fault. -/
theorem of_withSettings_eq_ok {viewport : Viewport α} {sampling : Sampling α} {s : Session α}
    (accepted : withSettings viewport sampling = .ok s) :
    viewport.fault? = none ∧ sampling.fault? = none ∧
      s = resetAxes { new with viewport, sampling } := by
  cases samplingFault : sampling.fault? with
  | some fault =>
      rw [withSettings, samplingFault] at accepted
      cases accepted
  | none =>
      cases viewportFault : viewport.fault? with
      | some fault =>
          rw [withSettings, samplingFault] at accepted
          simp only [outcome_resize_of_fault viewportFault] at accepted
          cases accepted
      | none =>
          rw [withSettings_eq_ok viewportFault samplingFault] at accepted
          exact ⟨rfl, rfl, (Except.ok.inj accepted).symm⟩

/-! ## Reachable sessions -/

/-- The session is a new one, or one with settings that were not refused. -/
inductive IsFresh : Session α → Prop where
  | new : IsFresh new
  | withSettings {s : Session α} (viewport : Viewport α) (sampling : Sampling α)
      (accepted : withSettings viewport sampling = .ok s) : IsFresh s

/-- The session comes from a fresh one by a run of actions. -/
def Reachable (s : Session α) : Prop :=
  ∃ fresh actions, IsFresh fresh ∧ s = run fresh actions

/-- What holds of fresh sessions and is kept by every action holds of all reachable ones. -/
theorem Reachable.induction {property : Session α → Prop} {s : Session α} (reachable : Reachable s)
    (fresh : ∀ start, IsFresh start → property start)
    (kept : ∀ before action, property before → property (before.next action)) : property s := by
  obtain ⟨start, actions, begun, rfl⟩ := reachable
  have first := fresh start begun
  clear begun
  induction actions generalizing start with
  | nil => exact first
  | cons action actions induction => exact induction (start.next action) (kept start action first)

end Session
end PlaneRegion
