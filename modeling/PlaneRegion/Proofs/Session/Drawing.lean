import PlaneRegion.Proofs.Region.Failure
import PlaneRegion.Proofs.Session.Display

/-!
# What the rows of a session draw

The rows are drawn in order, a row by its branches and a branch by its runs. A row that can not be
read stops the drawing, with the leftmost invalid piece of its equation or else with its tag.
-/

namespace PlaneRegion

open Attempt

variable {α : Type} [Scalar α]

namespace Row

/-- The row is blank or can be read. -/
def IsSound (α : Type) [Scalar α] (row : Row) : Prop :=
  row.isBlank = true ∨ ∃ (equation : Equation α) (axis : Axis), row.Reads equation axis

/-- What is wrong with a row. -/
inductive Fault (α : Type) [Scalar α] (row : Row) : EquationError → Prop where
  /-- The leftmost invalid piece of the equation. -/
  | equation {piece : List Char} (invalid : Equation.FirstInvalid α row.equation piece) :
      Fault α row ⟨String.ofList piece⟩
  /-- The tag, after an equation that can be read. -/
  | tag {equation : Equation α} (read : row.ReadsAs equation)
      (unknown : ∀ axis, Axis.ofTag row.tag ≠ .ok axis) : Fault α row ⟨row.tag⟩

end Row

/-- The first row of a list that can not be read, and what is wrong with it. -/
def FirstFault (α : Type) [Scalar α] (rows : List Row) (error : EquationError) : Prop :=
  ∃ before row later, rows = before ++ row :: later ∧
    (∀ earlier ∈ before, earlier.IsSound α) ∧ row.isBlank = false ∧ row.Fault α error

namespace Session

/-- The samples of a branch on the screen, over the visible range at the step of the session. -/
def samples (s : Session α) (axis : Axis) (branch : Equation α) : List (Point α) :=
  (Curve.sample branch axis (Curve.inputRange axis s.viewport) s.sampling.step s.viewport).value

/-- The paths are those of one row: none for a blank row, else those through the runs of each
branch, in the colour that belongs to the position of the row. -/
def RowFollow (s : Session α) (row : Row) (index : Nat) (paths : List (StrokedPath α)) : Prop :=
  (row.isBlank = true ∧ paths = []) ∨
    (row.isBlank = false ∧ ∃ (equation : Equation α) (axis : Axis), row.Reads equation axis ∧
      ∃ blocks, paths = blocks.flatten ∧
        List.Forall₂
          (fun branch block => Curve.Follow (s.samples axis branch) (Colour.forRow index) block)
          equation.branches blocks)

/-- The paths are those of all rows, row by row. -/
def RowsFollow (s : Session α) (paths : List (StrokedPath α)) : Prop :=
  ∃ blocks, paths = blocks.flatten ∧
    List.Forall₂ (fun row block => s.RowFollow row.1 row.2 block) s.rows.zipIdx blocks

/-- The calls draw the row at a position: none for a blank row, else those of each branch. -/
def RowCalls (s : Session α) (row : Row) (index : Nat) (calls : List (Call α)) : Prop :=
  (row.isBlank = true ∧ calls = []) ∨
    (row.isBlank = false ∧ ∃ (equation : Equation α) (axis : Axis), row.Reads equation axis ∧
      calls = equation.branches.flatMap fun branch =>
        Curve.render (s.samples axis branch) (Colour.forRow index) s.sampling.smoothness)

/-! ## Rows and their faults -/

private theorem ofTag_unknown {tag : String} (unknown : ∀ axis, Axis.ofTag tag ≠ .ok axis) :
    Axis.ofTag tag = .error ⟨tag⟩ := by
  unfold Axis.ofTag at unknown ⊢
  split_ifs at unknown ⊢ with x y
  · exact absurd rfl (unknown .x)
  · exact absurd rfl (unknown .y)
  · rfl

/-- A row that can not be read has a fault. -/
theorem isSound_or_fault (row : Row) :
    row.IsSound α ∨ ∃ error, row.Fault α error := by
  cases read : (Equation.read row.equation :
      Attempt (Event α) EquationError (Equation α)).outcome with
  | error error =>
      obtain ⟨piece, invalid, rfl⟩ := (Equation.outcome_read_eq_error_iff _ _).mp read
      exact Or.inr ⟨_, .equation invalid⟩
  | ok equation =>
      by_cases known : ∃ axis, Axis.ofTag row.tag = .ok axis
      · obtain ⟨axis, tag⟩ := known
        exact Or.inl (Or.inr ⟨equation, axis, read, tag⟩)
      · exact Or.inr ⟨_, .tag read (not_exists.mp known)⟩

/-- Either all rows can be read, or there is a first one that can not. -/
theorem forall_isSound_or_firstFault (rows : List Row) :
    (∀ row ∈ rows, row.IsSound α) ∨ ∃ error, FirstFault α rows error := by
  induction rows with
  | nil => exact Or.inl (List.forall_mem_nil _)
  | cons row rows induction =>
      by_cases sound : row.IsSound α
      · rcases induction with all | ⟨error, before, faulty, later, rfl, earlier, fault⟩
        · exact Or.inl (List.forall_mem_cons.mpr ⟨sound, all⟩)
        · exact Or.inr ⟨error, row :: before, faulty, later, rfl,
            List.forall_mem_cons.mpr ⟨sound, earlier⟩, fault⟩
      · have filled : row.isBlank = false := Bool.eq_false_iff.mpr fun blank => sound (Or.inl blank)
        obtain ⟨error, fault⟩ := (isSound_or_fault row).resolve_left sound
        exact Or.inr ⟨error, [], row, rows, rfl, List.forall_mem_nil _, filled, fault⟩

/-! ## Drawing one row -/

private theorem outcome_forM_branches (s : Session α) (branches : List (Equation α))
    (points : Equation α → Traced (Event α) (List (Point α))) (colour : Colour) (smoothness : α) :
    (branches.forM fun branch => do
      let points ← Change.ofAttempt (Attempt.ofTraced (points branch))
      modify (·.perform (Curve.render points colour smoothness)) :
        Change (Event α) (Session α) EquationError PUnit).outcome s =
      (.ok ⟨⟩, s.perform (branches.flatMap fun branch =>
        Curve.render (points branch).value colour smoothness)) := by
  induction branches generalizing s with
  | nil => rfl
  | cons branch branches induction =>
      rw [List.flatMap_cons, perform_append, ← induction]
      exact Change.outcome_bind_of_ok rfl _

theorem outcome_drawRow_of_reads (s : Session α) {row : Row} {equation : Equation α} {axis : Axis}
    (reads : row.Reads equation axis) (index : Nat) :
    (drawRow row index).outcome s =
      (.ok (), s.perform (equation.branches.flatMap fun branch =>
        Curve.render (s.samples axis branch) (Colour.forRow index) s.sampling.smoothness)) := by
  have tag := (outcome_ofExcept (ω := Event α) (Axis.ofTag row.tag)).trans reads.axis
  rw [drawRow, Change.outcome_bind_of_ok (Change.outcome_ofAttempt_of_eq reads.equation s),
    Change.outcome_bind_of_ok (Change.outcome_ofAttempt_of_eq tag s),
    Change.outcome_bind_of_ok (Change.outcome_get s)]
  exact outcome_forM_branches s _ _ _ _

/-- A row with a fault is refused before any of it is drawn. -/
theorem outcome_drawRow_of_fault (s : Session α) {row : Row} {error : EquationError}
    (fault : row.Fault α error) (index : Nat) :
    (drawRow row index).outcome s = (.error error, s) := by
  cases fault with
  | equation invalid =>
      have refused := (Equation.outcome_read_eq_error_iff _ _).mpr ⟨_, invalid, rfl⟩
      rw [drawRow, Change.outcome_bind_of_error (Change.outcome_ofAttempt_of_eq refused s)]
  | tag read unknown =>
      have refused := (outcome_ofExcept (ω := Event α) _).trans (ofTag_unknown unknown)
      rw [drawRow, Change.outcome_bind_of_ok (Change.outcome_ofAttempt_of_eq read s),
        Change.outcome_bind_of_error (Change.outcome_ofAttempt_of_eq refused s)]

theorem exists_rowCalls (s : Session α) {row : Row} (sound : row.IsSound α) (index : Nat) :
    ∃ calls, s.RowCalls row index calls := by
  cases blank : row.isBlank with
  | true => exact ⟨[], Or.inl ⟨blank, rfl⟩⟩
  | false =>
      rcases sound with empty | ⟨equation, axis, reads⟩
      · rw [blank] at empty
        cases empty
      · exact ⟨_, Or.inr ⟨blank, equation, axis, reads, rfl⟩⟩

/-- The calls that draw a row draw its paths. -/
theorem RowCalls.draws {s : Session α} {row : Row} {index : Nat} {calls : List (Call α)}
    (found : s.RowCalls row index calls) :
    ∃ paths, s.RowFollow row index paths ∧ Recorder.Draws calls (paths.map .path) := by
  rcases found with ⟨blank, rfl⟩ | ⟨filled, equation, axis, reads, rfl⟩
  · exact ⟨[], Or.inl ⟨blank, rfl⟩, Recorder.draws_nil⟩
  · let paths (branch : Equation α) :=
      Curve.smoothPaths (s.samples axis branch) (Colour.forRow index) s.sampling.smoothness
    refine ⟨(equation.branches.map paths).flatten,
      Or.inr ⟨filled, equation, axis, reads, _, rfl, ?_⟩, ?_⟩
    · rw [List.forall₂_map_right_iff]
      exact List.forall₂_same.mpr fun branch _ => Curve.follow_smoothPaths _ _ _
    · rw [← List.flatMap_def, List.map_flatMap]
      exact Recorder.draws_flatMap _ fun branch _ => Curve.draws_render _ _ _

theorem RowCalls.outcome_drawNext {s : Session α} {row : Row} {index : Nat}
    {calls : List (Call α)} (found : s.RowCalls row index calls) (drawn : Nat) :
    (drawNext drawn (row, index)).outcome s =
      (.ok (drawn + [row].countP fun row => !row.isBlank), s.perform calls) := by
  rcases found with ⟨blank, rfl⟩ | ⟨filled, equation, axis, reads, rfl⟩
  · rw [drawNext, if_pos blank]
    simp [blank]
  · rw [drawNext, if_neg (by simp [filled]),
      Change.outcome_bind_of_ok (outcome_drawRow_of_reads s reads index)]
    simp [filled]

theorem outcome_drawNext_of_fault (s : Session α) {row : Row} {error : EquationError}
    (filled : row.isBlank = false) (fault : row.Fault α error) (index drawn : Nat) :
    (drawNext drawn (row, index)).outcome s = (.error error, s) := by
  rw [drawNext, if_neg (by simp [filled]),
    Change.outcome_bind_of_error (outcome_drawRow_of_fault s fault index)]

/-! ## Drawing all rows -/

/-- Rows that can be read are drawn one after the other on what is shown already. -/
theorem outcome_foldlM_drawNext {s : Session α} {items : List (Row × Nat)}
    {blocks : List (List (Call α))}
    (each : List.Forall₂ (fun item calls => s.RowCalls item.1 item.2 calls) items blocks)
    (drawn : Nat) (front : List (Call α)) :
    (items.foldlM drawNext drawn).outcome (s.perform front) =
      (.ok (drawn + (items.map Prod.fst).countP fun row => !row.isBlank),
        s.perform (front ++ blocks.flatten)) := by
  induction each generalizing drawn front with
  | nil => simp
  | @cons item calls items blocks head _ induction =>
      have first := RowCalls.outcome_drawNext (s := s.perform front) head drawn
      rw [List.foldlM_cons, Change.outcome_bind_of_ok first, ← perform_append, induction]
      simp [List.countP_cons, Nat.add_assoc, Nat.add_comm]

theorem exists_calls (s : Session α) {rows : List Row} (sound : ∀ row ∈ rows, row.IsSound α) :
    ∃ blocks,
      List.Forall₂ (fun item calls => s.RowCalls item.1 item.2 calls) rows.zipIdx blocks :=
  exists_forall₂ fun item member =>
    s.exists_rowCalls (sound _ (List.fst_mem_of_mem_zipIdx member)) item.2

/-- The calls that draw rows draw the paths of these rows. -/
theorem draws_flatten {s : Session α} {rows : List Row} {blocks : List (List (Call α))}
    (each : List.Forall₂ (fun item calls => s.RowCalls item.1 item.2 calls) rows.zipIdx blocks) :
    ∃ paths, RowsFollow { s with rows } paths ∧
      Recorder.Draws blocks.flatten (paths.map .path) := by
  unfold RowsFollow
  generalize rows.zipIdx = items at each ⊢
  induction each with
  | nil => exact ⟨[], ⟨[], rfl, .nil⟩, Recorder.draws_nil⟩
  | cons head _ induction =>
      obtain ⟨first, follow, drawsFirst⟩ := head.draws
      obtain ⟨_, ⟨parts, rfl, later⟩, drawsLater⟩ := induction
      refine ⟨_, ⟨first :: parts, rfl, .cons follow later⟩, ?_⟩
      rw [List.flatten_cons, List.flatten_cons, List.map_append]
      exact Recorder.draws_append drawsFirst drawsLater

theorem outcome_drawRows_of_rowCalls {s : Session α} {blocks : List (List (Call α))}
    (each : List.Forall₂ (fun item calls => s.RowCalls item.1 item.2 calls) s.rows.zipIdx blocks) :
    drawRows.outcome s =
      (.ok (s.rows.countP fun row => !row.isBlank), s.perform blocks.flatten) := by
  have run := outcome_foldlM_drawNext each 0 []
  rw [perform_nil, List.nil_append, Nat.zero_add, List.zipIdx_map_fst] at run
  exact run

/-- If all rows can be read, drawing them adds the paths of all rows. -/
theorem outcome_drawRows_of_sound (s : Session α) (sound : ∀ row ∈ s.rows, row.IsSound α) :
    ∃ calls paths, s.RowsFollow paths ∧ Recorder.Draws calls (paths.map .path) ∧
      drawRows.outcome s =
        (.ok (s.rows.countP fun row => !row.isBlank), s.perform calls) := by
  obtain ⟨blocks, each⟩ := s.exists_calls sound
  obtain ⟨paths, follow, draws⟩ := draws_flatten each
  exact ⟨blocks.flatten, paths, follow, draws, outcome_drawRows_of_rowCalls each⟩

/-- Drawing the rows fails at the first one that can not be read, after it has added the paths of
the rows before that. -/
theorem outcome_drawRows_of_firstFault (s : Session α) {error : EquationError}
    (fault : FirstFault α s.rows error) :
    ∃ before calls paths, before <+: s.rows ∧ RowsFollow { s with rows := before } paths ∧
      Recorder.Draws calls (paths.map .path) ∧
      drawRows.outcome s = (.error error, s.perform calls) := by
  obtain ⟨before, row, later, split, sound, filled, fault⟩ := fault
  obtain ⟨blocks, each⟩ := s.exists_calls sound
  obtain ⟨paths, follow, draws⟩ := draws_flatten each
  have run := outcome_foldlM_drawNext each 0 []
  have stopped := outcome_drawNext_of_fault (s.perform ([] ++ blocks.flatten)) filled fault
    before.length (0 + (before.zipIdx.map Prod.fst).countP fun row => !row.isBlank)
  refine ⟨before, blocks.flatten, paths, ⟨row :: later, split.symm⟩, follow, draws, ?_⟩
  rw [drawRows, Change.outcome_bind_of_ok (Change.outcome_get s), split, List.zipIdx_append,
    List.foldlM_append, List.zipIdx_cons, Nat.zero_add]
  rw [perform_nil] at run
  rw [Change.outcome_bind_of_ok run, List.foldlM_cons, Change.outcome_bind_of_error stopped]
  rfl

end Session
end PlaneRegion
