import PlaneRegion.Scalar.Basic
import PlaneRegion.Session.Basic
import PlaneRegion.Task.Document

/-!
# Tasks

What a task document asks for: a viewport, a sampling, rows, and outputs.  Every pair of a document
is an assignment of its own, whatever stands around it.  A task is the standard one after all
assignments in document order: scalar fields keep their last value, rows are collected.
-/

namespace PlaneRegion
namespace Task

/-- Where and how results are saved. -/
structure Output where
  /-- File for the drawing as a bitmap. -/
  png : Option String
  /-- File for the drawing as SVG text. -/
  svg : Option String
  /-- File for the samples. -/
  csv : Option String
  logLevel : Option String
  /-- The log is written to a file too. -/
  logFile : Bool
  deriving DecidableEq, Repr

end Task

/-- What a task document asks for. -/
structure Task where
  /-- The size and the scale of the canvas. -/
  viewport : Viewport Float
  /-- How curves are sampled and smoothed. -/
  sampling : Sampling Float
  rows : List Row
  output : Task.Output
  deriving DecidableEq, Repr

namespace Task

/-- Why a document is no task. -/
inductive Fault where
  | document (error : DocumentError)
  /-- A key that takes one value has another number of values. -/
  | notSingle (title key : String) (values : Nat)
  | notNumber (title key value : String)
  /-- The value is not a number of pixels. -/
  | notPixels (title key value : String)
  | notBoolean (title key : String)
  | unknownKey (title key : String)
  | unknownSection (title : String)
  | viewport (fault : ViewportFault Float)
  | sampling (fault : SamplingFault Float)
  deriving DecidableEq, Repr

/-- The text of a fault. -/
def Fault.message : Fault → String
  | document error => error.message
  | notSingle title key values =>
      title ++ ": key '" ++ key ++ "' needs exactly one value, got " ++ toString values
  | notNumber title key value =>
      title ++ ": key '" ++ key ++ "' must be a number, got '" ++ value ++ "'"
  | notPixels title key value =>
      title ++ ": key '" ++ key ++ "' must be a pixel count, got '" ++ value ++ "'"
  | notBoolean title key => title ++ ": key '" ++ key ++ "' must be true or false"
  | unknownKey title key => title ++ ": unknown key '" ++ key ++ "'"
  | unknownSection title => "unknown section '" ++ title ++ "'"
  | viewport fault => fault.message
  | sampling fault => fault.message

/-- What one pair of a document sets. -/
inductive Assignment where
  | width (pixels : Nat)
  | height (pixels : Nat)
  | scaleX (scale : Float)
  | scaleY (scale : Float)
  | step (step : Float)
  | smoothness (smoothness : Float)
  | rows (rows : List Row)
  | png (path : String)
  | svg (path : String)
  | csv (path : String)
  | logLevel (level : String)
  | logFile (wanted : Bool)
  deriving DecidableEq, Repr

/-- The task that nothing has been assigned to. -/
def standard : Task where
  viewport := .standard
  sampling := .standard
  rows := []
  output := ⟨none, none, none, none, false⟩

/-- Perform one assignment. -/
def assign (task : Task) : Assignment → Task
  | .width pixels => { task with viewport := { task.viewport with width := pixels } }
  | .height pixels => { task with viewport := { task.viewport with height := pixels } }
  | .scaleX scale => { task with viewport := { task.viewport with scaleX := scale } }
  | .scaleY scale => { task with viewport := { task.viewport with scaleY := scale } }
  | .step step => { task with sampling := { task.sampling with step } }
  | .smoothness smoothness => { task with sampling := { task.sampling with smoothness } }
  | .rows rows => { task with rows := task.rows ++ rows }
  | .png path => { task with output := { task.output with png := some path } }
  | .svg path => { task with output := { task.output with svg := some path } }
  | .csv path => { task with output := { task.output with csv := some path } }
  | .logLevel level => { task with output := { task.output with logLevel := some level } }
  | .logFile wanted => { task with output := { task.output with logFile := wanted } }

/-- The only value of a pair. -/
def single (title : String) (pair : Pair) : Except Fault Value :=
  match pair.values with
  | [value] => .ok value
  | values => .error (.notSingle title pair.key values.length)

/-- The only value of a pair, as a number. -/
def singleNumber (title : String) (pair : Pair) : Except Fault Float := do
  let value ← single title pair
  match value.asNumber? with
  | some x => return x
  | none => throw (.notNumber title pair.key value.toText)

/-- The only value of a pair, as a number of pixels below `2 ^ 32`. -/
def singlePixels (title : String) (pair : Pair) : Except Fault Nat := do
  let value ← single title pair
  match value.asInteger? with
  | some n =>
      if 0 ≤ n ∧ n < 0x100000000 then return n.toNat
      else throw (.notPixels title pair.key value.toText)
  | none => throw (.notPixels title pair.key value.toText)

/-- The only value of a pair, as a truth value. -/
def singleBoolean (title : String) (pair : Pair) : Except Fault Bool := do
  match (← single title pair).asBoolean? with
  | some b => return b
  | none => throw (.notBoolean title pair.key)

/-- The only value of a pair, as text. -/
def singleText (title : String) (pair : Pair) : Except Fault String :=
  (single title pair).map Value.toText

/-- The rows of a pair under the axis tag that is its key: one row for each value, and an empty row
if there is none. -/
def rowsOf (pair : Pair) : List Row :=
  match pair.values with
  | [] => [⟨pair.key, ""⟩]
  | values => values.map fun value => ⟨pair.key, value.toText⟩

/-- What a pair sets in the section with the given title. -/
def assignment (title : String) (pair : Pair) : Except Fault Assignment :=
  match title with
  | "canvas" =>
      match pair.key with
      | "width" => (singlePixels title pair).map .width
      | "height" => (singlePixels title pair).map .height
      | "scale_x" => (singleNumber title pair).map .scaleX
      | "scale_y" => (singleNumber title pair).map .scaleY
      | key => .error (.unknownKey title key)
  | "sampling" =>
      match pair.key with
      | "step" => (singleNumber title pair).map .step
      | "smoothness" => (singleNumber title pair).map .smoothness
      | key => .error (.unknownKey title key)
  | "curves" => .ok (.rows (rowsOf pair))
  | "output" =>
      match pair.key with
      | "png" => (singleText title pair).map .png
      | "svg" => (singleText title pair).map .svg
      | "csv" => (singleText title pair).map .csv
      | "loglevel" => (singleText title pair).map .logLevel
      | "log_file" => (singleBoolean title pair).map .logFile
      | key => .error (.unknownKey title key)
  | _ => .error (.unknownSection title)

/-- All assignments of a document in order, up to the first that is wrong. -/
def assignments (sections : List Section) : Except Fault (List Assignment) :=
  (sections.flatMap fun s => s.pairs.map fun pair => (s.title, pair)).mapM fun (title, pair) =>
    assignment title pair

/-- A task whose viewport and sampling can be used. -/
def checked (task : Task) : Except Fault Task :=
  match task.viewport.fault?, task.sampling.fault? with
  | some fault, _ => .error (.viewport fault)
  | none, some fault => .error (.sampling fault)
  | none, none => .ok task

/-- The task that a list of sections describes. -/
def ofSections (sections : List Section) : Except Fault Task := do
  checked ((← assignments sections).foldl assign standard)

/-- The task that a document describes. -/
def ofDocument (text : String) : Except Fault Task := do
  ofSections (← (Document.read text).mapError .document)

end Task
end PlaneRegion
