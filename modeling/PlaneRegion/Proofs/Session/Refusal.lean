import PlaneRegion.Proofs.Binary64.Order
import PlaneRegion.Proofs.Session.Run
import PlaneRegion.Proofs.Session.Submission

/-!
# Refused and accepted actions

Three actions can be refused: a row is filled in that does not exist, a row is removed though only
two are left, or a viewport is asked for that no canvas can have. Each is refused in these cases
only, and then changes nothing; an accepted action changes nothing but what it is about.
-/

namespace PlaneRegion

namespace Viewport

/-- The number of pixels per unit is undefined, infinite or too small. -/
def IsUnusableScale (scale : Float) : Prop :=
  scale.isNaN = true ∨ scale.isInf = true ∨ scale < minScale

/-- No canvas can have the viewport. -/
def IsUnusable (v : Viewport Float) : Prop :=
  v.width = 0 ∨ v.height = 0 ∨ maxSide < v.width ∨ maxSide < v.height ∨
    IsUnusableScale v.scaleX ∨ IsUnusableScale v.scaleY

theorem isUsableScale_eq_false_iff {scale : Float} :
    isUsableScale scale = false ↔ IsUnusableScale scale := by
  have defined : (minScale : Float).isNaN = false := by decide
  have order : ¬ minScale ≤ scale ↔ scale.isNaN = true ∨ scale < minScale := by
    rw [Binary64.not_le_iff, defined]
    simp
  rw [isUsableScale, Bool.and_eq_false_iff, IsUnusableScale]
  change decide (minScale ≤ scale) = false ∨ scale.isFinite = false ↔ _
  rw [decide_eq_false_iff_not, order, Binary64.isFinite_eq_false_iff]
  tauto

/-- A viewport has a fault exactly if no canvas can have it. -/
theorem exists_fault_iff {v : Viewport Float} :
    (∃ fault, v.fault? = some fault) ↔ v.IsUnusable := by
  rw [IsUnusable, ← isUsableScale_eq_false_iff, ← isUsableScale_eq_false_iff, fault?]
  by_cases none : v.width = 0 ∨ v.height = 0
  · simp [none]
    tauto
  · by_cases large : maxSide < v.width ∨ maxSide < v.height
    · simp [none, large]
      tauto
    · simp [none, large]
      tauto

end Viewport

namespace Session

/-- A refused action leaves the session as it was, and is one of three. -/
theorem Step.of_error {α : Type} [Scalar α] {s after : Session α} {action : Action α}
    {refusal : Refusal α} (step : Step s action (.error refusal) after) :
    after = s ∧ ((∃ index row, action = .setRow index row) ∨ action = .removeRow ∨
      ∃ viewport, action = .resize viewport) := by
  cases step with
  | noSuchRow => exact ⟨rfl, Or.inl ⟨_, _, rfl⟩⟩
  | tooFewRows => exact ⟨rfl, Or.inr (Or.inl rfl)⟩
  | unusable => exact ⟨rfl, Or.inr (Or.inr ⟨_, rfl⟩)⟩

/-- The contract of a session about the actions that can be refused. -/
structure Guarded (s : Session Float) : Prop where
  setRow_refused : ∀ index row refusal,
    s.answer (.setRow index row) = .error refusal ↔
      s.rows.length ≤ index ∧ refusal = .rowOutOfRange index s.rows.length
  removeRow_refused : ∀ refusal,
    s.answer .removeRow = .error refusal ↔
      s.rows.length < 3 ∧ refusal = .tooFewRows s.rows.length
  resize_refused : ∀ viewport,
    (∃ refusal, s.answer (.resize viewport) = .error refusal) ↔ viewport.IsUnusable
  /-- No other action is refused. -/
  refused_only : ∀ action refusal, s.answer action = .error refusal →
    (∃ index row, action = .setRow index row) ∨ action = .removeRow ∨
      ∃ viewport, action = .resize viewport
  /-- A refused action changes nothing. -/
  refused : ∀ action refusal, s.answer action = .error refusal → s.next action = s
  /-- A row that is filled in is all that changes. -/
  setRow_accepted : ∀ index row, s.answer (.setRow index row) = .ok () →
    let after := s.next (.setRow index row)
    after.rows.length = s.rows.length ∧
      (∀ other, after.rows[other]? = if other = index then some row else s.rows[other]?) ∧
      after.viewport = s.viewport ∧ after.sampling = s.sampling ∧ after.canvas = s.canvas ∧
      after.notice = s.notice
  /-- A new viewport keeps the rows and the sampling, and leaves its axes and no notice. -/
  resize_accepted : ∀ viewport, s.answer (.resize viewport) = .ok () →
    let after := s.next (.resize viewport)
    after.viewport = viewport ∧ after.canvas.displayList = Curve.axisLines viewport ∧
      after.canvas.openPath = none ∧ after.notice = .silent ∧ after.rows = s.rows ∧
      after.sampling = s.sampling
  /-- The last row is removed and the others are submitted. -/
  removeRow_accepted : s.answer .removeRow = .ok () →
    ∃ kept last, s.rows = kept ++ [last] ∧
      s.next .removeRow = (submit { s with rows := kept }).value ∧
      (s.next .removeRow).rows = kept

/-- Actions are refused exactly when they should be, and change no more than they should. -/
theorem guarded (s : Session Float) : Guarded s where
  setRow_refused index row refusal := by
    have step := s.step_act (.setRow index row)
    generalize s.answer _ = answer, s.next _ = after at step ⊢
    cases step with
    | setRow inside => simp [Nat.not_le_of_lt inside]
    | noSuchRow outside => simp [outside, eq_comm]
  removeRow_refused refusal := by
    have step := s.step_act .removeRow
    generalize s.answer _ = answer, s.next _ = after at step ⊢
    cases step with
    | removeRow enough => simp [Nat.not_lt_of_le enough]
    | tooFewRows few => simp [few, eq_comm]
  resize_refused viewport := by
    rw [← Viewport.exists_fault_iff]
    have step := s.step_act (.resize viewport)
    generalize s.answer _ = answer, s.next _ = after at step ⊢
    cases step with
    | resize usable => simp [usable]
    | unusable found => simp [found]
  refused_only action _ refused := (refused ▸ s.step_act action).of_error.2
  refused action _ refused := (refused ▸ s.step_act action).of_error.1
  setRow_accepted index row accepted := by
    have step := s.step_act (.setRow index row)
    rw [accepted] at step
    generalize s.next _ = after at step ⊢
    cases step with
    | setRow inside =>
        refine ⟨List.length_set, fun other => ?_, rfl, rfl, rfl, rfl⟩
        by_cases same : other = index
        · rw [same, if_pos rfl, List.getElem?_set_self inside]
        · rw [if_neg same, List.getElem?_set_ne (Ne.symm same)]
  resize_accepted viewport accepted := by
    have step := s.step_act (.resize viewport)
    rw [accepted] at step
    generalize s.next _ = after at step ⊢
    cases step with
    | resize usable =>
        rw [resetAxes_eq]
        exact ⟨rfl, rfl, rfl, rfl, rfl, rfl⟩
  removeRow_accepted accepted := by
    have step := s.step_act .removeRow
    rw [accepted] at step
    generalize s.next _ = after at step ⊢
    cases step with
    | removeRow enough =>
        have filled : s.rows ≠ [] := List.ne_nil_of_length_pos (by omega)
        have keeps := (submit_keeps { s with rows := s.rows.dropLast }).1
        exact ⟨s.rows.dropLast, s.rows.getLast filled,
          (List.dropLast_append_getLast filled).symm, rfl, keeps⟩

end Session
end PlaneRegion
