import PlaneRegion.Proofs.Session.Invariant
import PlaneRegion.Proofs.Task.Saving

/-!
# Walks over the rows of a task

The rows of a task are walked over three times: to draw their curves, to list their terms and to
export their samples. All three walks meet the same curves in the same order, so that the table and
the samples belong to the picture that is drawn.
-/

namespace PlaneRegion

open Attempt Host

/-- A curve that is met on a walk over rows. -/
structure RowCurve where
  row : Row
  /-- Position of the row, from zero. -/
  index : Nat
  axis : Axis
  /-- The curve is the one on the other branch of the roots. -/
  negated : Bool
  equation : Equation Float

namespace RowCurve

/-- The lines of the table of terms. -/
def lines (curve : RowCurve) : List TermRow :=
  curve.equation.map fun term =>
    ⟨curve.index + 1, curve.row.label " = ", if curve.negated then "-" else "+", term.text⟩

/-- The samples over the visible range of the free variable. -/
def samples (viewport : Viewport Float) (step : Float) (curve : RowCurve) :
    List (Float × Float) :=
  Curve.tabulate curve.equation (Curve.inputRange curve.axis viewport) step

/-- The samples as they are exported. -/
def exported (viewport : Viewport Float) (step : Float) (curve : RowCurve) : SampledCurve :=
  ⟨curve.row.label "=" ++ if curve.negated then " (negative root)" else "",
    curve.samples viewport step⟩

/-- The exported samples on the screen. -/
def points (viewport : Viewport Float) (step : Float) (curve : RowCurve) : List (Point Float) :=
  (curve.exported viewport step).samples.map (Curve.place curve.axis viewport)

/-- The calls that draw the curve. -/
def calls (viewport : Viewport Float) (sampling : Sampling Float) (curve : RowCurve) :
    List (Call Float) :=
  Curve.render (curve.points viewport sampling.step) (Colour.forRow curve.index)
    sampling.smoothness

/-- The smooth paths that the calls draw. -/
def paths (viewport : Viewport Float) (sampling : Sampling Float) (curve : RowCurve) :
    List (StrokedPath Float) :=
  Curve.smoothPaths (curve.points viewport sampling.step) (Colour.forRow curve.index)
    sampling.smoothness

/-- The second equation has exactly the coefficients of roots negated. -/
def RootsNegated (equation other : Equation Float) : Prop :=
  List.Forall₂
    (fun term changed =>
      if term.operation = .root then changed = { term with coefficient := -term.coefficient }
      else changed = term)
    equation other

/-- The curves of the row at a position: none for a blank row, two for a row with a root and one for
any other row. -/
inductive OfRow (row : Row) (index : Nat) : List RowCurve → Prop where
  | blank (blank : row.isBlank = true) : OfRow row index []
  | single {equation : Equation Float} {axis : Axis} (filled : row.isBlank = false)
      (reads : row.Reads equation axis) (rootless : ∀ term ∈ equation, term.operation ≠ .root) :
      OfRow row index [⟨row, index, axis, false, equation⟩]
  | double {equation other : Equation Float} {axis : Axis} (filled : row.isBlank = false)
      (reads : row.Reads equation axis) (rooted : ∃ term ∈ equation, term.operation = .root)
      (negated : RootsNegated equation other) :
      OfRow row index [⟨row, index, axis, false, equation⟩, ⟨row, index, axis, true, other⟩]

/-- The curves of all rows, row by row. -/
def OfRows (rows : List Row) (curves : List RowCurve) : Prop :=
  ∃ blocks, curves = blocks.flatten ∧
    List.Forall₂ (fun item block => OfRow item.1 item.2 block) rows.zipIdx blocks

/-! ## Branches -/

theorem branches_of_rootless {equation : Equation Float}
    (rootless : ∀ term ∈ equation, term.operation ≠ .root) : equation.branches = [equation] := by
  have none : equation.any Term.isRoot = false := by simpa [Term.isRoot] using rootless
  rw [Equation.branches, none, if_neg Bool.false_ne_true]

theorem map_negatedRoot_of_rootsNegated {equation other : Equation Float}
    (negated : RootsNegated equation other) : equation.map Term.negatedRoot = other := by
  induction negated with
  | nil => rfl
  | @cons term changed _ _ head _ induction =>
      have same : term.negatedRoot = changed := by
        rw [Term.negatedRoot]
        split_ifs at head ⊢ <;> simp_all [Term.isRoot]
      rw [List.map_cons, same, induction]

theorem rootsNegated_map_negatedRoot (equation : Equation Float) :
    RootsNegated equation (equation.map Term.negatedRoot) := by
  rw [RootsNegated, List.forall₂_map_right_iff]
  refine List.forall₂_same.mpr fun term _ => ?_
  rw [Term.negatedRoot]
  split_ifs <;> simp_all [Term.isRoot]

theorem branches_of_rooted {equation other : Equation Float}
    (rooted : ∃ term ∈ equation, term.operation = .root) (negated : RootsNegated equation other) :
    equation.branches = [equation, other] := by
  have some : equation.any Term.isRoot = true := by simpa [Term.isRoot] using rooted
  rw [Equation.branches, if_pos some, map_negatedRoot_of_rootsNegated negated]

/-- Every sound row has its curves. -/
theorem exists_ofRow {row : Row} (sound : row.IsSound Float) (index : Nat) :
    ∃ block, OfRow row index block := by
  cases blank : row.isBlank with
  | true => exact ⟨[], .blank blank⟩
  | false =>
      rcases sound with empty | ⟨equation, axis, reads⟩
      · rw [blank] at empty
        cases empty
      · by_cases rooted : ∃ term ∈ equation, term.operation = .root
        · exact ⟨_, .double blank reads rooted (rootsNegated_map_negatedRoot equation)⟩
        · refine ⟨_, .single blank reads fun term member root => ?_⟩
          exact rooted ⟨term, member, root⟩

theorem exists_ofRows {rows : List Row} (sound : ∀ row ∈ rows, row.IsSound Float) :
    ∃ curves, OfRows rows curves := by
  obtain ⟨blocks, each⟩ : ∃ blocks, List.Forall₂
      (fun (item : Row × Nat) block => OfRow item.1 item.2 block) rows.zipIdx blocks :=
    exists_forall₂ fun item member =>
      exists_ofRow (sound _ (List.fst_mem_of_mem_zipIdx member)) item.2
  exact ⟨blocks.flatten, blocks, rfl, each⟩

/-- Blank rows at the end add no curves. -/
theorem OfRows.append_blank {rows blanks : List Row} {curves : List RowCurve}
    (found : OfRows rows curves) (blank : ∀ row ∈ blanks, row.isBlank = true) :
    OfRows (rows ++ blanks) curves := by
  obtain ⟨blocks, rfl, each⟩ := found
  have none : List.Forall₂ (fun (item : Row × Nat) block => OfRow item.1 item.2 block)
      (blanks.zipIdx rows.length) ((blanks.zipIdx rows.length).map fun _ => []) := by
    rw [List.forall₂_map_right_iff]
    exact List.forall₂_same.mpr fun item member =>
      .blank (blank item.1 (List.fst_mem_of_mem_zipIdx member))
  refine ⟨blocks ++ (blanks.zipIdx rows.length).map fun _ => [], ?_, ?_⟩
  · simp
  · rw [List.zipIdx_append, Nat.zero_add]
    exact List.rel_append each none

/-! ## Single rows -/

theorem OfRow.rowCalls {row : Row} {index : Nat} {block : List RowCurve}
    (found : OfRow row index block) (s : Session Float) :
    s.RowCalls row index (block.flatMap (calls s.viewport s.sampling)) := by
  cases found with
  | blank blank => exact Or.inl ⟨blank, rfl⟩
  | single filled reads rootless =>
      refine Or.inr ⟨filled, _, _, reads, ?_⟩
      rw [branches_of_rootless rootless]
      rfl
  | double filled reads rooted negated =>
      refine Or.inr ⟨filled, _, _, reads, ?_⟩
      rw [branches_of_rooted rooted negated]
      rfl

theorem OfRow.outcome_terms {row : Row} {index : Nat} {block : List RowCurve}
    (found : OfRow row index block) :
    (TermRow.ofRow row index).outcome = .ok (block.flatMap lines) := by
  rw [TermRow.ofRow]
  cases found with
  | blank blank =>
      rw [if_pos blank]
      rfl
  | single filled reads rootless =>
      rw [filled, if_neg Bool.false_ne_true, outcome_bind_of_ok reads.equation,
        branches_of_rootless rootless]
      rfl
  | double filled reads rooted negated =>
      rw [filled, if_neg Bool.false_ne_true, outcome_bind_of_ok reads.equation,
        branches_of_rooted rooted negated]
      rfl

theorem OfRow.outcome_samples {row : Row} {index : Nat} {block : List RowCurve}
    (found : OfRow row index block) (viewport : Viewport Float) (step : Float) :
    (SampledCurve.ofRow viewport step row).outcome =
      .ok (block.flatMap fun curve => [curve.exported viewport step]) := by
  rw [SampledCurve.ofRow]
  cases found with
  | blank blank =>
      rw [if_pos blank]
      rfl
  | single filled reads rootless =>
      have tag := (outcome_ofExcept (ω := Event Float) (Axis.ofTag row.tag)).trans reads.axis
      rw [filled, if_neg Bool.false_ne_true, outcome_bind_of_ok tag,
        outcome_bind_of_ok reads.equation, branches_of_rootless rootless]
      rfl
  | double filled reads rooted negated =>
      have tag := (outcome_ofExcept (ω := Event Float) (Axis.ofTag row.tag)).trans reads.axis
      rw [filled, if_neg Bool.false_ne_true, outcome_bind_of_ok tag,
        outcome_bind_of_ok reads.equation, branches_of_rooted rooted negated]
      rfl

/-! ## All rows -/

private theorem flatten_map_flatMap {β : Type} (blocks : List (List RowCurve))
    (part : RowCurve → List β) :
    (blocks.map (List.flatMap part)).flatten = blocks.flatten.flatMap part := by
  rw [List.flatMap_def, List.map_flatten, List.flatten_flatten, List.map_map]
  rfl

private theorem outcome_walk {ι ω β : Type} {walk : ι → Attempt ω EquationError (List β)}
    {items : List ι} {blocks : List (List RowCurve)} {part : RowCurve → List β}
    (each : List.Forall₂ (fun item block => (walk item).outcome = .ok (block.flatMap part)) items
      blocks) :
    (do
      let parts ← items.mapM walk
      return parts.flatten : Attempt ω EquationError (List β)).outcome =
      .ok (blocks.flatten.flatMap part) := by
  have parts : (items.mapM walk).outcome = .ok (blocks.map (List.flatMap part)) := by
    rw [outcome_mapM_eq_ok_iff, List.forall₂_map_right_iff]
    exact each
  rw [outcome_bind_of_ok parts, outcome_pure, flatten_map_flatMap]

/-- Drawing the rows adds the calls of all curves to what is shown, and nothing else. -/
theorem OfRows.outcome_drawRows {s : Session Float} {curves : List RowCurve}
    (found : OfRows s.rows curves) :
    Session.drawRows.outcome s =
      (.ok (s.rows.countP fun row => !row.isBlank),
        s.perform (curves.flatMap (calls s.viewport s.sampling))) := by
  obtain ⟨blocks, rfl, each⟩ := found
  have drawn : List.Forall₂ (fun item calls => s.RowCalls item.1 item.2 calls) s.rows.zipIdx
      (blocks.map (List.flatMap (calls s.viewport s.sampling))) := by
    rw [List.forall₂_map_right_iff]
    exact each.imp fun _ _ one => one.rowCalls s
  rw [Session.outcome_drawRows_of_rowCalls drawn, flatten_map_flatMap]

theorem OfRows.outcome_terms {rows : List Row} {curves : List RowCurve}
    (found : OfRows rows curves) :
    (TermRow.ofRows rows).outcome = .ok (curves.flatMap lines) := by
  obtain ⟨blocks, rfl, each⟩ := found
  exact outcome_walk (each.imp fun _ _ one => one.outcome_terms)

theorem OfRows.outcome_samples {rows : List Row} {curves : List RowCurve}
    (found : OfRows rows curves) (viewport : Viewport Float) (step : Float) :
    (SampledCurve.ofRows viewport step rows).outcome =
      .ok (curves.map (exported viewport step)) := by
  obtain ⟨blocks, rfl, each⟩ := found
  have walked : List.Forall₂
      (fun row block => (SampledCurve.ofRow viewport step row).outcome =
        .ok (block.flatMap fun curve => [curve.exported viewport step])) rows blocks := by
    rw [← List.zipIdx_map_fst 0 rows, List.forall₂_map_left_iff]
    exact each.imp fun _ _ one => one.outcome_samples viewport step
  rw [List.map_eq_flatMap]
  exact outcome_walk walked

/-- The paths that a submission draws are those of the curves. -/
theorem OfRows.paths_submit {s : Session Float} {curves : List RowCurve}
    (found : OfRows s.rows curves) (sound : ∀ row ∈ s.rows, row.IsSound Float) :
    s.submit.value.notice.error = none ∧
      s.submit.value.canvas.paths = curves.flatMap (paths s.viewport s.sampling) := by
  have draws : Recorder.Draws (curves.flatMap (calls s.viewport s.sampling))
      ((curves.flatMap (paths s.viewport s.sampling)).map .path) := by
    rw [List.map_flatMap]
    exact Recorder.draws_flatMap _ fun curve _ => Curve.draws_render _ _ _
  obtain ⟨region, described⟩ := Session.exists_outcome_describe_of_sound sound
  rw [s.submit_value_of_drawn (found.outcome_drawRows (s := Session.resetAxes s)) draws described]
  exact ⟨rfl, Session.paths_axisLines _ _⟩

/-- The curves are cut into their maximal runs of finite points. -/
def CutInto (viewport : Viewport Float) (step : Float) (curves : List RowCurve)
    (runs : List (List (List (Point Float)))) : Prop :=
  List.Forall₂ (fun curve cut => Curve.MaximalRuns (curve.points viewport step) cut) curves runs

/-- There is one path for each maximal run of at least two points. -/
theorem exists_cutInto (viewport : Viewport Float) (sampling : Sampling Float)
    (curves : List RowCurve) :
    ∃ runs, CutInto viewport sampling.step curves runs ∧
      (curves.flatMap (paths viewport sampling)).length =
        runs.flatten.countP fun run => 2 ≤ run.length := by
  unfold CutInto
  induction curves with
  | nil => exact ⟨[], .nil, rfl⟩
  | cons curve curves induction =>
      obtain ⟨later, cut, counted⟩ := induction
      obtain ⟨runs, maximal, follow⟩ := Curve.follow_smoothPaths
        (curve.points viewport sampling.step) (Colour.forRow curve.index) sampling.smoothness
      have first : (curve.paths viewport sampling).length =
          runs.countP fun run => 2 ≤ run.length := by
        rw [List.countP_eq_length_filter]
        exact follow.length_eq.symm
      refine ⟨runs :: later, .cons maximal cut, ?_⟩
      rw [List.flatMap_cons, List.length_append, first, counted, List.flatten_cons,
        List.countP_append]

end RowCurve

namespace Task

section Reports

variable {σ : Type} [Host (StateM σ)] {before after : σ}

private theorem ends_printTerms {rows : List Row} {terms : List TermRow}
    (ended : Ends (printTerms rows) before (.ok terms) after) :
    (TermRow.ofRows rows).outcome = .ok terms := by
  obtain ⟨lines, _, played, ended⟩ := ended.of_bind_ok
  obtain ⟨_, _, _, ended⟩ := ended.of_bind_ok
  obtain ⟨_, _, _, ended⟩ := ended.of_bind_ok
  obtain rfl := ended.of_pure
  have outcome := ends_playAttempt played
  cases listed : (TermRow.ofRows rows).outcome with
  | error error =>
      rw [listed] at outcome
      cases outcome
  | ok found =>
      rw [listed] at outcome
      cases outcome
      rfl

private theorem report_of_ends_outputs {task : Task} {session : Session Float}
    {report result : Report} {paths : Nat}
    (ended : Ends (do
      ExceptT.lift (print (summary session.notice))
      whenGiven task.output.png .pngNotSaved fun path =>
        savePng path session.viewport session.canvas
      whenGiven task.output.svg .svgNotSaved fun path =>
        saveSvg path session.viewport session.canvas
      saveSamples task session.notice
      ExceptT.lift (log (.taskFinished paths))
      pure result : ExceptT RunError (StateM σ) Report) before (.ok report) after) :
    report = result := by
  obtain ⟨_, _, _, ended⟩ := ended.of_bind_ok
  obtain ⟨_, _, _, ended⟩ := ended.of_bind_ok
  obtain ⟨_, _, _, ended⟩ := ended.of_bind_ok
  obtain ⟨_, _, _, ended⟩ := ended.of_bind_ok
  obtain ⟨_, _, _, ended⟩ := ended.of_bind_ok
  exact ended.of_pure

/-- A run reports the paths of its session and, if the rows are drawn, their terms. -/
theorem report_of_ends_run {task : Task} {session : Session Float} {report : Report}
    (accepted : Session.withSettings task.viewport task.sampling = .ok session)
    (ended : Ends (run task) before (.ok report) after) :
    report.paths = (task.submitted session).canvas.paths.length ∧
      ((task.submitted session).notice.error = none →
        (TermRow.ofRows (task.submitted session).rows).outcome = .ok report.terms) := by
  rw [run, accepted] at ended
  obtain ⟨_, _, begun, ended⟩ := ended.of_bind_ok
  cases Ends.of_mk_pure begun
  obtain ⟨_, _, played, ended⟩ := ended.of_bind_ok
  obtain rfl := Ends.of_play played
  simp only at ended
  split_ifs at ended with silent
  · obtain ⟨terms, _, listed, ended⟩ := ended.of_bind_ok
    obtain rfl := report_of_ends_outputs ended
    exact ⟨rfl, fun _ => ends_printTerms listed⟩
  · obtain ⟨_, _, _, ended⟩ := ended.of_bind_ok
    obtain rfl := report_of_ends_outputs ended
    exact ⟨rfl, fun drawn => absurd (Option.isNone_iff_eq_none.mpr drawn) silent⟩

end Reports

/-- The walks over the rows of a task meet the given curves, one after the other. -/
structure Pictured (task : Task) (session : Session Float) (curves : List RowCurve) : Prop where
  /-- The session begins with the rows of the task. -/
  loaded : ∀ i < task.rows.length, (session.loadRows task.rows).rows[i]? = task.rows[i]?
  /-- All further rows of the session are blank. -/
  padded : ∀ row ∈ (session.loadRows task.rows).rows.drop task.rows.length, row.isBlank = true
  /-- The curves are those of the rows of the task. -/
  walked : RowCurve.OfRows task.rows curves
  /-- On whatever is shown, drawing the rows adds the calls of the curves and nothing else. -/
  drawn : ∀ s : Session Float, s.rows = (session.loadRows task.rows).rows →
    s.viewport = task.viewport → s.sampling = task.sampling →
      Session.drawRows.outcome s =
        (.ok (s.rows.countP fun row => !row.isBlank),
          s.perform (curves.flatMap (RowCurve.calls task.viewport task.sampling)))
  shown : (task.submitted session).canvas.paths =
    curves.flatMap (RowCurve.paths task.viewport task.sampling)
  listed : (TermRow.ofRows (session.loadRows task.rows).rows).outcome =
    .ok (curves.flatMap RowCurve.lines)
  exported : (SampledCurve.ofRows task.viewport task.sampling.step task.rows).outcome =
    .ok (curves.map (RowCurve.exported task.viewport task.sampling.step))
  /-- As many paths are drawn as there are maximal runs of at least two finite points. -/
  counted : ∃ runs, RowCurve.CutInto task.viewport task.sampling.step curves runs ∧
    (task.submitted session).canvas.paths.length = runs.flatten.countP fun run => 2 ≤ run.length
  /-- A run that comes to its end reports the lines and the number of paths. -/
  reported : ∀ {σ : Type} [Host (StateM σ)] (before after : σ) (report : Report),
    Ends (run task) before (.ok report) after →
      report.terms = curves.flatMap RowCurve.lines ∧
        report.paths = (task.submitted session).canvas.paths.length

private theorem isBlank_of_mem_initialRows {row : Row} (member : row ∈ Session.initialRows) :
    row.isBlank = true := by
  have empty : row = Row.empty := by simpa [Session.initialRows] using member
  rw [empty]
  rfl

/-- Drawing, listing and exporting the rows of a task meet the same curves in the same order. -/
theorem exists_pictured {task : Task} {session : Session Float}
    (accepted : Session.withSettings task.viewport task.sampling = .ok session)
    (sound : ∀ row ∈ task.rows, row.IsSound Float) :
    ∃ curves, Pictured task session curves := by
  obtain ⟨_, _, fresh⟩ := Session.of_withSettings_eq_ok accepted
  have rows : session.rows = Session.initialRows := congrArg Session.rows fresh
  have viewport : session.viewport = task.viewport := congrArg Session.viewport fresh
  have sampling : session.sampling = task.sampling := congrArg Session.sampling fresh
  have padded : ∀ row ∈ session.rows.drop task.rows.length, row.isBlank = true := by
    intro row member
    rw [rows] at member
    exact isBlank_of_mem_initialRows (List.mem_of_mem_drop member)
  have all_sound : ∀ row ∈ (session.loadRows task.rows).rows, row.IsSound Float := by
    intro row member
    rcases List.mem_append.mp member with member | member
    · exact sound row member
    · exact Or.inl (padded row member)
  obtain ⟨curves, walked⟩ := RowCurve.exists_ofRows sound
  have walked_all : RowCurve.OfRows (session.loadRows task.rows).rows curves :=
    walked.append_blank padded
  obtain ⟨silent, paths⟩ := walked_all.paths_submit all_sound
  have shown : (task.submitted session).canvas.paths =
      curves.flatMap (RowCurve.paths task.viewport task.sampling) := by
    rw [← viewport, ← sampling]
    exact paths
  refine ⟨curves, ?_, ?_, walked, ?_, shown, walked_all.outcome_terms, ?_, ?_, ?_⟩
  · intro i inside
    exact List.getElem?_append_left inside
  · intro row member
    have rest : (task.rows ++ session.rows.drop task.rows.length).drop task.rows.length =
        session.rows.drop task.rows.length := List.drop_left
    exact padded row (rest ▸ member)
  · intro s rows viewport sampling
    rw [← viewport, ← sampling]
    exact RowCurve.OfRows.outcome_drawRows (rows.symm ▸ walked_all)
  · exact walked.outcome_samples _ _
  · obtain ⟨runs, cut, counted⟩ := RowCurve.exists_cutInto task.viewport task.sampling curves
    refine ⟨runs, cut, ?_⟩
    rw [shown, counted]
  · intro σ _ before after report ended
    obtain ⟨drawn, listed⟩ := report_of_ends_run accepted ended
    have terms := listed silent
    rw [submitted, (Session.submit_keeps _).1, walked_all.outcome_terms] at terms
    exact ⟨(Except.ok.inj terms).symm, drawn⟩

/-- A task with two branches in its first row and a blank row before the last one. -/
theorem exists_pictured_root_and_level :
    ∃ task session curves, task.rows = [⟨"y", "sqrt(x)"⟩, Row.empty, ⟨"x", "2"⟩] ∧
      Session.withSettings task.viewport task.sampling = .ok session ∧
      (∀ row ∈ task.rows, row.IsSound Float) ∧ Pictured task session curves := by
  let task : Task := { standard with rows := [⟨"y", "sqrt(x)"⟩, Row.empty, ⟨"x", "2"⟩] }
  have accepted : Session.withSettings task.viewport task.sampling = .ok _ :=
    Session.withSettings_eq_ok Session.standard_usable.1 Session.standard_usable.2
  have sound : ∀ row ∈ task.rows, row.IsSound Float := by
    intro row member
    simp only [task, List.mem_cons, List.not_mem_nil, or_false] at member
    rcases member with rfl | rfl | rfl
    · exact Or.inr ⟨[.root 1 1], .y, by decide +kernel, rfl⟩
    · exact Or.inl rfl
    · exact Or.inr ⟨[.constant 2], .x, by decide +kernel, rfl⟩
  obtain ⟨curves, pictured⟩ := exists_pictured accepted sound
  exact ⟨task, _, curves, rfl, accepted, sound, pictured⟩

end Task
end PlaneRegion
