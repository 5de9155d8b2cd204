import PlaneRegion.Curve.Rendering
import PlaneRegion.Curve.Sampling
import PlaneRegion.Region.Describe

/-!
# Graphing sessions

A session holds the rows that have been entered, a canvas with its viewport, the sampling, and a
notice about the last submission.  Submitting draws the rows that have an equation one after the
other and describes the region that they enclose.  A malformed row is met only when the rows before
it are on the canvas already; then the canvas is cleared, and the notice is the error of that row.
-/

namespace PlaneRegion

/-- What a session shows below the canvas. -/
structure Notice (α : Type) where
  region : Option (Region α)
  error : Option EquationError
  deriving DecidableEq, Repr

/-- The notice that says nothing. -/
def Notice.silent {α : Type} : Notice α := ⟨none, none⟩

/-- The text of a notice about an error. -/
def EquationError.notice (error : EquationError) : String :=
  "Error: " ++ error.message

/-- Why a session refuses an action. -/
inductive Refusal (α : Type) where
  /-- No row can be removed. -/
  | tooFewRows (rows : Nat)
  | rowOutOfRange (index rows : Nat)
  | viewport (fault : ViewportFault α)
  | sampling (fault : SamplingFault α)
  deriving DecidableEq, Repr

/-- The text of a refusal. -/
def Refusal.message : Refusal Float → String
  | tooFewRows rows => "at least 3 rows are needed to remove one, found " ++ toString rows
  | rowOutOfRange index rows =>
      "row " ++ toString index ++ " does not exist, there are " ++ toString rows ++ " rows"
  | viewport fault => "invalid canvas dimensions: " ++ fault.message
  | sampling fault => "invalid sampler settings: " ++ fault.message

/-- A graphing session. -/
structure Session (α : Type) where
  rows : List Row
  /-- The size and the scale of the canvas. -/
  viewport : Viewport α
  /-- How curves are sampled and smoothed. -/
  sampling : Sampling α
  canvas : Recorder α
  /-- The outcome of the last submission. -/
  notice : Notice α
  deriving DecidableEq, Repr

namespace Session

variable {α : Type} [Scalar α]

/-- The rows of a new session. -/
def initialRows : List Row := [Row.empty, Row.empty]

/-- Leave nothing but the axes on the canvas, and silence the notice. -/
def resetAxes (s : Session α) : Session α :=
  { s with
    canvas := s.canvas.performAll (.clear :: Curve.axes s.viewport)
    notice := .silent }

/-- A new session. -/
def new : Session α :=
  resetAxes
    { rows := initialRows
      viewport := .standard
      sampling := .standard
      canvas := .blank
      notice := .silent }

/-- Change the viewport, and leave nothing but its axes on the canvas. -/
def resize (viewport : Viewport α) : Change (Event α) (Session α) (Refusal α) Unit := do
  match viewport.fault? with
  | some fault => throw (.viewport fault)
  | none => modify fun s => resetAxes { s with viewport }

/-- A new session with the given viewport and sampling. -/
def withSettings (viewport : Viewport α) (sampling : Sampling α) :
    Except (Refusal α) (Session α) :=
  match sampling.fault? with
  | some fault => .error (.sampling fault)
  | none =>
      match (resize viewport).outcome { new with sampling } with
      | (.ok _, s) => .ok s
      | (.error refusal, _) => .error refusal

/-- Go back to the standard viewport. -/
def restoreViewport (s : Session α) : Session α :=
  resetAxes { s with viewport := .standard }

omit [Scalar α] in
/-- Fill in one row. -/
def setRow (index : Nat) (row : Row) : Change (Event α) (Session α) (Refusal α) Unit := do
  let s ← get
  if index < s.rows.length then
    set { s with rows := s.rows.set index row }
  else
    throw (.rowOutOfRange index s.rows.length)

omit [Scalar α] in
/-- Fill in rows from the first one on, adding rows as needed. -/
def loadRows (s : Session α) (rows : List Row) : Session α :=
  { s with rows := rows ++ s.rows.drop rows.length }

omit [Scalar α] in
/-- Add an empty row. -/
def addRow (s : Session α) : Session α :=
  { s with rows := s.rows ++ [Row.empty] }

/-- Go back to the rows and the canvas of a new session. -/
def clearAll (s : Session α) : Session α :=
  { resetAxes s with rows := initialRows }

omit [Scalar α] in
/-- Draw on what is shown. -/
def perform (s : Session α) (calls : List (Call α)) : Session α :=
  { s with canvas := s.canvas.performAll calls }

/-- Draw one row, at its position among all rows: each branch of its equation in turn. -/
def drawRow (row : Row) (index : Nat) : Change (Event α) (Session α) EquationError Unit := do
  let equation ← Change.ofAttempt (Equation.read row.equation)
  let axis ← Change.ofAttempt (Attempt.ofExcept (Axis.ofTag row.tag))
  let s ← get
  let range := Curve.inputRange axis s.viewport
  (Equation.branches equation).forM fun branch => do
    let points ← Change.ofAttempt
      (Attempt.ofTraced (Curve.sample branch axis range s.sampling.step s.viewport))
    modify (·.perform (Curve.render points (Colour.forRow index) s.sampling.smoothness))

/-- Draw one more row, unless it is blank, and count it. -/
def drawNext (drawn : Nat) (item : Row × Nat) :
    Change (Event α) (Session α) EquationError Nat := do
  if item.1.isBlank then
    return drawn
  else
    drawRow item.1 item.2
    return drawn + 1

/-- Draw the rows one after the other and count them.  The first malformed one ends the drawing,
with all rows before it on the canvas. -/
def drawRows : Change (Event α) (Session α) EquationError Nat := do
  let s ← get
  s.rows.zipIdx.foldlM drawNext 0

/-- Leave nothing but the axes on the canvas and an error as the notice. -/
def report (s : Session α) (error : EquationError) : Traced (Event α) (Session α) := do
  Traced.record (.refused error)
  let s := resetAxes s
  return { s with notice := { s.notice with error := some error } }

/-- Draw all rows and describe the region that they enclose. -/
def submit (s : Session α) : Traced (Event α) (Session α) := do
  match ← drawRows.settle (resetAxes s) with
  | (.error error, s) => s.report error
  | (.ok drawn, s) =>
      Traced.record (.curvesDrawn drawn)
      match ← (Region.describe s.rows).settle with
      | .error error => s.report error
      | .ok region => return { s with notice := { s.notice with region } }

/-- Remove the last row and submit the others; two rows always stay. -/
def removeRow : Change (Event α) (Session α) (Refusal α) Unit := do
  let s ← get
  if s.rows.length < 3 then
    throw (.tooFewRows s.rows.length)
  else
    set { s with rows := s.rows.dropLast }
    Change.ofTraced submit

end Session
end PlaneRegion
