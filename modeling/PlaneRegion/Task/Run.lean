import PlaneRegion.Canvas.Export
import PlaneRegion.Host.BitmapFile
import PlaneRegion.Task.Basic
import PlaneRegion.Task.Tables

/-!
# Running tasks

A task is run in a graphing session of its own: its rows are submitted, the terms and the region are
printed, and the outputs that the task asks for are saved.
-/

namespace PlaneRegion
namespace Task

/-- Why a run comes to no end. -/
inductive RunError where
  /-- The document can not be read. -/
  | unreadable (path : String) (reason : FileError)
  | fault (fault : Fault)
  | unknownLevel (name : String)
  | noLogFile (path : String) (reason : FileError)
  /-- The session refuses the viewport or the sampling. -/
  | refused (refusal : Refusal Float)
  /-- A row that the session accepted is malformed. -/
  | malformed (error : EquationError)
  | pngNotSaved (path : String) (reason : BitmapError)
  | svgNotSaved (path : String) (reason : FileError)
  | csvNotSaved (path : String) (reason : FileError)

/-- What a bitmap that can not be saved is reported as. -/
def pngReason (reason : BitmapError) : String :=
  "backend error: Drawing backend error: ImageError(" ++ reason.detailed ++ ")"

/-- What an SVG text that can not be saved is reported as. -/
def svgReason (reason : FileError) : String :=
  "backend error: Drawing backend error: " ++ reason.message

/-- The text of a run error. -/
def RunError.message : RunError → String
  | unreadable path reason => "can not read task file " ++ path ++ ": " ++ reason.message
  | fault cause => cause.message
  | unknownLevel name =>
      "loglevel must be off, none, debug, info, warn or error, got '" ++ name ++ "'"
  | noLogFile path reason => "can not create " ++ path ++ ": " ++ reason.message
  | refused refusal => refusal.message
  | malformed error => error.message
  | pngNotSaved path reason => "can not save " ++ path ++ ": " ++ pngReason reason
  | svgNotSaved path reason => "can not save " ++ path ++ ": " ++ svgReason reason
  | csvNotSaved path reason => "can not save " ++ path ++ ": " ++ reason.message

/-- What a run has produced. -/
structure Report where
  notice : Notice Float
  /-- The table of terms; none after an error. -/
  terms : List TermRow
  paths : Nat

/-- The level that a name asks for: `off` and `none` ask for no log, no name for the level
`info`. -/
def logLevel : Option String → Except RunError (Option Level)
  | none => .ok (some .info)
  | some "off" => .ok none
  | some "none" => .ok none
  | some "debug" => .ok (some .debug)
  | some "info" => .ok (some .info)
  | some "warn" => .ok (some .warn)
  | some "error" => .ok (some .error)
  | some name => .error (.unknownLevel name)

/-- What a session says about the region of its rows. -/
def summary (notice : Notice Float) : String :=
  match notice.error, notice.region with
  | some error, _ => error.notice
  | none, some region => region.text
  | none, none => "the curves do not enclose a domain that can be described"

variable {m : Type → Type} [Monad m] [Host m]

/-- Begin the log that a name asks for. -/
def startLog (name : Option String) (toFile : Bool) : ExceptT RunError m Unit := do
  match ← ExceptT.mk (pure (logLevel name)) with
  | none => return ()
  | some level =>
      match ← ExceptT.lift (Host.openLog level toFile : m _) with
      | .error (path, reason) => throw (.noLogFile path reason)
      | .ok _ => ExceptT.lift (Host.log (.logStarted level) : m _)

/-- Save a drawing as a bitmap. -/
def savePng (path : String) (viewport : Viewport Float) (canvas : Recorder Float) :
    ExceptT BitmapError m Unit := do
  Host.saveBitmap path viewport canvas.displayList
  ExceptT.lift (Host.log (.canvasSaved path) : m _)

/-- Save a drawing as SVG text. -/
def saveSvg (path : String) (viewport : Viewport Float) (canvas : Recorder Float) :
    ExceptT FileError m Unit := do
  ExceptT.mk (Host.save path (.text (Svg.document viewport canvas.displayList)) : m _)
  ExceptT.lift (Host.log (.canvasSaved path) : m _)

/-- Save samples as comma-separated values. -/
def saveCsv (path : String) (curves : List SampledCurve) : ExceptT FileError m Unit := do
  ExceptT.mk (Host.save path (.text (Csv.document curves)) : m _)
  ExceptT.lift (Host.log (.samplesSaved curves.length path) : m _)

/-- Log the events of an attempt and go on with its result. -/
def playAttempt {α : Type} (x : Attempt (Event Float) EquationError α) : ExceptT RunError m α :=
  ExceptT.mk ((·.mapError RunError.malformed) <$> Host.play x.settle)

/-- List and print the terms of the rows of a session. -/
def printTerms (rows : List Row) : ExceptT RunError m (List TermRow) := do
  let terms ← playAttempt (TermRow.ofRows rows)
  ExceptT.lift (Host.print "Parsed terms\n" : m _)
  ExceptT.lift (Host.print (Table.text TermRow.headers (terms.map TermRow.cells)) : m _)
  return terms

/-- Perform an action on a path that is given. -/
def whenGiven {ε : Type} (path : Option String) (error : String → ε → RunError)
    (action : String → ExceptT ε m Unit) : ExceptT RunError m Unit :=
  match path with
  | none => return ()
  | some path => ExceptT.mk ((·.mapError (error path)) <$> (action path).run)

/-- Save the samples of the rows of a task, unless its rows are malformed. -/
def saveSamples (task : Task) (notice : Notice Float) : ExceptT RunError m Unit := do
  if task.output.csv.isSome ∧ notice.error.isNone then
    let curves ← playAttempt (SampledCurve.ofRows task.viewport task.sampling.step task.rows)
    whenGiven task.output.csv .csvNotSaved fun path => saveCsv path curves

/-- Run a task. -/
def run (task : Task) : ExceptT RunError m Report := do
  let session ← ExceptT.mk (pure
    ((Session.withSettings task.viewport task.sampling).mapError RunError.refused))
  let session ← ExceptT.lift (Host.play (session.loadRows task.rows).submit : m _)
  let paths := session.canvas.paths.length
  let terms ← if session.notice.error.isNone then printTerms session.rows else pure []
  ExceptT.lift (Host.print (summary session.notice) : m _)
  whenGiven task.output.png .pngNotSaved fun path =>
    savePng path session.viewport session.canvas
  whenGiven task.output.svg .svgNotSaved fun path =>
    saveSvg path session.viewport session.canvas
  saveSamples task session.notice
  ExceptT.lift (Host.log (.taskFinished paths) : m _)
  return { notice := session.notice, terms, paths }

/-- The task in the document at a path. -/
def load (path : String) : ExceptT RunError m Task := do
  let text ← ExceptT.mk ((·.mapError (RunError.unreadable path)) <$> Host.readText path)
  ExceptT.mk (pure ((ofDocument text).mapError .fault))

/-- Run the task in the document at a path, with the log that it asks for. -/
def runFile (path : String) : ExceptT RunError m Report := do
  let task ← load path
  startLog task.output.logLevel task.output.logFile
  ExceptT.lift (Host.log (.taskLoaded path task.rows.length) : m _)
  run task

end Task
end PlaneRegion
