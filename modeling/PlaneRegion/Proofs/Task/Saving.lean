import Mathlib
import PlaneRegion.Proofs.Host.Ending
import PlaneRegion.Proofs.Session.Run
import PlaneRegion.Proofs.Session.Submission
import PlaneRegion.Task.Run
import PlaneRegion.Task.Tables

/-!
# Runs that fail

The settings of a task that has been read are usable, and the rows that its session has drawn can be
listed and sampled as well. So a run can fail only where a file has to be written, with what is
reported there.
-/

namespace PlaneRegion

/-! ## Tables of sound rows

The terms of the rows and the samples of the rows are read row by row, each reading for itself. Rows
that a session has drawn are sound, and sound rows can be read for both.
-/

open Attempt

/-- The terms of sound rows can be listed. -/
theorem TermRow.exists_outcome_ofRows {rows : List Row} (sound : ∀ row ∈ rows, row.IsSound Float) :
    ∃ lines, (TermRow.ofRows rows).outcome = .ok lines := by
  have each : ∀ item ∈ rows.zipIdx, ∃ lines, (TermRow.ofRow item.1 item.2).outcome = .ok lines := by
    rintro ⟨row, position⟩ member
    rw [TermRow.ofRow]
    cases blank : row.isBlank with
    | true => exact ⟨[], rfl⟩
    | false =>
        rcases sound row (List.fst_mem_of_mem_zipIdx member) with empty | ⟨equation, _, reads⟩
        · rw [blank] at empty
          cases empty
        · exact ⟨_, outcome_bind_eq_ok_iff.mpr ⟨equation, reads.equation, outcome_pure _⟩⟩
  obtain ⟨lines, listed⟩ := (exists_outcome_mapM_eq_ok_iff _ _).mpr each
  exact ⟨lines.flatten, outcome_bind_eq_ok_iff.mpr ⟨lines, listed, outcome_pure _⟩⟩

/-- Sound rows can be sampled. -/
theorem SampledCurve.exists_outcome_ofRows (viewport : Viewport Float) (step : Float)
    {rows : List Row} (sound : ∀ row ∈ rows, row.IsSound Float) :
    ∃ curves, (SampledCurve.ofRows viewport step rows).outcome = .ok curves := by
  have each : ∀ row ∈ rows, ∃ curves,
      (SampledCurve.ofRow viewport step row).outcome = .ok curves := by
    intro row member
    rw [SampledCurve.ofRow]
    cases blank : row.isBlank with
    | true => exact ⟨[], rfl⟩
    | false =>
        rcases sound row member with empty | ⟨equation, axis, reads⟩
        · rw [blank] at empty
          cases empty
        -- Here the tag is read before the equation, unlike when the row is drawn.
        · have tag := (outcome_ofExcept (ω := Event Float) (Axis.ofTag row.tag)).trans reads.axis
          rw [if_neg Bool.false_ne_true, outcome_bind_of_ok tag, outcome_bind_of_ok reads.equation]
          exact ⟨_, outcome_pure _⟩
  obtain ⟨curves, sampled⟩ := (exists_outcome_mapM_eq_ok_iff _ _).mpr each
  exact ⟨curves.flatten, outcome_bind_eq_ok_iff.mpr ⟨curves, sampled, outcome_pure _⟩⟩

namespace Session

variable {α : Type} [Scalar α]

/-- The rows of a session that has been submitted without an error are sound. -/
theorem isSound_of_submit {s : Session α} (accepted : s.submit.value.notice.error = none) :
    ∀ row ∈ s.rows, row.IsSound α := by
  by_contra unsound
  obtain ⟨error, _, value⟩ := submit_value_of_not_sound s unsound
  rw [value] at accepted
  cases accepted

end Session

/-! ## What a run does -/

namespace Task

open Host

/-- The task of a document that is read is that of its sections. -/
theorem ofDocument_of_read {text : String} {sections : List Section}
    (read : Document.read text = .ok sections) : ofDocument text = ofSections sections := by
  rw [ofDocument, read]
  rfl

/-- A task that has been read has a viewport and a sampling without a fault. -/
theorem usable_of_ofDocument {text : String} {task : Task} (read : ofDocument text = .ok task) :
    task.viewport.fault? = none ∧ task.sampling.fault? = none := by
  obtain ⟨assigned, checked⟩ : ∃ assigned, Task.checked assigned = .ok task := by
    cases document : Document.read text with
    | error failure =>
        rw [ofDocument, document] at read
        cases read
    | ok sections =>
        rw [ofDocument_of_read document, ofSections] at read
        cases assigned : assignments sections with
        | error fault =>
            rw [assigned] at read
            cases read
        | ok list =>
            rw [assigned] at read
            exact ⟨_, read⟩
  unfold Task.checked at checked
  split at checked
  · cases checked
  · cases checked
  · rename_i viewport sampling
    cases checked
    exact ⟨viewport, sampling⟩

/-- The session of a task after its rows have been submitted. -/
def submitted (task : Task) (session : Session Float) : Session Float :=
  (session.loadRows task.rows).submit.value

/-- A file that a task asks for is not saved: its writer reports the reason, and there the run
ends. -/
inductive NotSaved {σ : Type} [Host (StateM σ)] (task : Task) (session : Session Float)
    (after : σ) : RunError → Prop where
  | png {path : String} {reason : BitmapError} {before : σ} (wanted : task.output.png = some path)
      (reported :
        Ends (savePng path session.viewport session.canvas) before (.error reason) after) :
      NotSaved task session after (.pngNotSaved path reason)
  | svg {path : String} {reason : FileError} {before : σ} (wanted : task.output.svg = some path)
      (reported :
        Ends (saveSvg path session.viewport session.canvas) before (.error reason) after) :
      NotSaved task session after (.svgNotSaved path reason)
  | csv {path : String} {reason : FileError} {before : σ} {curves : List SampledCurve}
      (wanted : task.output.csv = some path)
      (sampled : (SampledCurve.ofRows task.viewport task.sampling.step task.rows).outcome =
        .ok curves)
      (reported : Ends (saveCsv path curves) before (.error reason) after) :
      NotSaved task session after (.csvNotSaved path reason)

section Steps

variable {σ : Type} [Host (StateM σ)] {before after : σ} {error : RunError}

omit [Host (StateM σ)] in
private theorem ends_whenGiven {ε : Type} {path : Option String} {name : String → ε → RunError}
    {action : String → ExceptT ε (StateM σ) Unit}
    (failed : Ends (whenGiven path name action) before (.error error) after) :
    ∃ given reason, path = some given ∧ error = name given reason ∧
      Ends (action given) before (.error reason) after := by
  cases path with
  | none => exact absurd failed not_ends_pure_error
  | some given =>
      obtain ⟨original, ended, renamed⟩ := Ends.of_mapError failed
      cases original with
      | ok result => cases renamed
      | error reason =>
          cases renamed
          exact ⟨given, reason, rfl, rfl, ended⟩

theorem ends_playAttempt {α : Type} {attempt : Attempt (Event Float) EquationError α}
    {outcome : Except RunError α} (ended : Ends (playAttempt attempt) before outcome after) :
    outcome = attempt.outcome.mapError RunError.malformed := by
  cases ended
  rfl

private theorem not_ends_printTerms {rows : List Row} (sound : ∀ row ∈ rows, row.IsSound Float) :
    ¬ Ends (printTerms rows) before (.error error) after := by
  intro failed
  obtain ⟨lines, listed⟩ := TermRow.exists_outcome_ofRows sound
  rcases failed.of_bind_error with failed | ⟨_, _, _, failed⟩
  · have outcome := ends_playAttempt failed
    rw [listed] at outcome
    cases outcome
  rcases failed.of_bind_error with failed | ⟨_, _, _, failed⟩
  · exact not_ends_lift_error failed
  rcases failed.of_bind_error with failed | ⟨_, _, _, failed⟩
  · exact not_ends_lift_error failed
  · exact not_ends_pure_error failed

private theorem ends_saveSamples {task : Task} {session : Session Float}
    (sound : session.notice.error = none → ∀ row ∈ task.rows, row.IsSound Float)
    (failed : Ends (saveSamples task session.notice) before (.error error) after) :
    NotSaved task session after error := by
  rw [saveSamples] at failed
  split_ifs at failed with wanted
  · obtain ⟨curves, sampled⟩ := SampledCurve.exists_outcome_ofRows task.viewport
      task.sampling.step (sound (Option.isNone_iff_eq_none.mp wanted.2))
    rcases failed.of_bind_error with failed | ⟨found, _, played, failed⟩
    · have outcome := ends_playAttempt failed
      rw [sampled] at outcome
      cases outcome
    · have outcome := ends_playAttempt played
      rw [sampled] at outcome
      cases outcome
      obtain ⟨path, reason, given, rfl, reported⟩ := ends_whenGiven failed
      exact .csv given sampled reported
  · exact absurd failed not_ends_pure_error

private theorem ends_outputs {task : Task} {session : Session Float} {report : Report}
    {paths : Nat}
    (sound : session.notice.error = none → ∀ row ∈ task.rows, row.IsSound Float)
    (failed : Ends (do
      ExceptT.lift (print (summary session.notice))
      whenGiven task.output.png .pngNotSaved fun path =>
        savePng path session.viewport session.canvas
      whenGiven task.output.svg .svgNotSaved fun path =>
        saveSvg path session.viewport session.canvas
      saveSamples task session.notice
      ExceptT.lift (log (.taskFinished paths))
      pure report : ExceptT RunError (StateM σ) Report) before (.error error) after) :
    NotSaved task session after error := by
  rcases failed.of_bind_error with failed | ⟨_, _, _, failed⟩
  · exact absurd failed not_ends_lift_error
  rcases failed.of_bind_error with failed | ⟨_, _, _, failed⟩
  · obtain ⟨path, reason, wanted, rfl, reported⟩ := ends_whenGiven failed
    exact .png wanted reported
  rcases failed.of_bind_error with failed | ⟨_, _, _, failed⟩
  · obtain ⟨path, reason, wanted, rfl, reported⟩ := ends_whenGiven failed
    exact .svg wanted reported
  rcases failed.of_bind_error with failed | ⟨_, _, _, failed⟩
  · exact ends_saveSamples sound failed
  rcases failed.of_bind_error with failed | ⟨_, _, _, failed⟩
  · exact absurd failed not_ends_lift_error
  · exact absurd failed not_ends_pure_error

private theorem ends_run {task : Task} {session : Session Float}
    (accepted : Session.withSettings task.viewport task.sampling = .ok session)
    (failed : Ends (run task) before (.error error) after) :
    NotSaved task (task.submitted session) after error := by
  have sound : (task.submitted session).notice.error = none →
      ∀ row ∈ (session.loadRows task.rows).rows, row.IsSound Float := Session.isSound_of_submit
  have rows : (task.submitted session).rows = (session.loadRows task.rows).rows :=
    (Session.submit_keeps _).1
  have loaded : (task.submitted session).notice.error = none →
      ∀ row ∈ task.rows, row.IsSound Float :=
    fun drawn row member => sound drawn row (List.mem_append_left _ member)
  rw [run, accepted] at failed
  rcases failed.of_bind_error with failed | ⟨_, _, begun, failed⟩
  · cases Ends.of_mk_pure failed
  cases Ends.of_mk_pure begun
  rcases failed.of_bind_error with failed | ⟨_, _, played, failed⟩
  · exact absurd failed not_ends_lift_error
  obtain rfl := Ends.of_play played
  simp only at failed
  split_ifs at failed with drawn
  · have readable := sound (Option.isNone_iff_eq_none.mp drawn)
    rw [← rows] at readable
    rcases failed.of_bind_error with failed | ⟨_, _, _, failed⟩
    · exact absurd failed (not_ends_printTerms readable)
    · exact ends_outputs loaded failed
  · rcases failed.of_bind_error with failed | ⟨_, _, _, failed⟩
    · exact absurd failed not_ends_pure_error
    · exact ends_outputs loaded failed

end Steps

/-- A task that has been read can be run: its session is accepted, rows that are drawn without an
error can be listed and sampled too, and the run fails only where a file is not saved. -/
theorem run_fails_only_to_save {text : String} {task : Task} (read : ofDocument text = .ok task) :
    ∃ session, Session.withSettings task.viewport task.sampling = .ok session ∧
      ((task.submitted session).notice.error = none →
        (∃ lines, (TermRow.ofRows (task.submitted session).rows).outcome = .ok lines) ∧
        ∃ curves, (SampledCurve.ofRows task.viewport task.sampling.step task.rows).outcome =
          .ok curves) ∧
      ∀ {σ : Type} [Host (StateM σ)] (before after : σ) (error : RunError),
        Ends (run task) before (.error error) after →
          NotSaved task (task.submitted session) after error := by
  obtain ⟨viewport, sampling⟩ := usable_of_ofDocument read
  have accepted := Session.withSettings_eq_ok viewport sampling
  refine ⟨_, accepted, ?_, fun _ _ _ failed => ends_run accepted failed⟩
  intro drawn
  have sound := Session.isSound_of_submit drawn
  constructor
  · apply TermRow.exists_outcome_ofRows
    rw [submitted, (Session.submit_keeps _).1]
    exact sound
  · apply SampledCurve.exists_outcome_ofRows
    intro row member
    exact sound row (List.mem_append_left _ member)

/-- A task for samples alone, which only the writer of the samples can stop. -/
theorem run_parabola_fails_only_to_save_samples :
    ∃ task, ofDocument "curves\ny: x^2\ny: 4\noutput\ncsv: a.csv" = .ok task ∧
      task.rows = [⟨"y", "x^2"⟩, ⟨"y", "4"⟩] ∧
      ∀ {σ : Type} [Host (StateM σ)] (before after : σ) (error : RunError),
        Ends (run task) before (.error error) after →
          ∃ reason curves middle, error = .csvNotSaved "a.csv" reason ∧
            Ends (saveCsv "a.csv" curves) middle (.error reason) after := by
  have document : Document.read "curves\ny: x^2\ny: 4\noutput\ncsv: a.csv" =
      .ok
        [⟨"curves", [⟨"y", [.text "x^2"]⟩, ⟨"y", [.integer 4]⟩]⟩,
          ⟨"output", [⟨"csv", [.text "a.csv"]⟩]⟩] := by
    cbv
  have described : ofSections
      [⟨"curves", [⟨"y", [.text "x^2"]⟩, ⟨"y", [.integer 4]⟩]⟩,
        ⟨"output", [⟨"csv", [.text "a.csv"]⟩]⟩] =
      .ok
        { standard with
          rows := [⟨"y", "x^2"⟩, ⟨"y", "4"⟩]
          output := ⟨none, none, some "a.csv", none, false⟩ } := by
    decide +kernel
  have read := (ofDocument_of_read document).trans described
  obtain ⟨session, _, _, saving⟩ := run_fails_only_to_save read
  refine ⟨_, read, rfl, ?_⟩
  intro σ _ before after error failed
  cases saving before after error failed with
  | png wanted _ => cases wanted
  | svg wanted _ => cases wanted
  | csv wanted _ reported =>
      cases wanted
      exact ⟨_, _, _, rfl, reported⟩

end Task
end PlaneRegion
