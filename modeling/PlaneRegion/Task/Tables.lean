import PlaneRegion.Curve.Sampling
import PlaneRegion.Equation.Reader
import PlaneRegion.Scalar.Basic
import PlaneRegion.Text.Character

/-!
# Tables of a task

A task can list its curves in two ways: the samples of every branch of every row in a file, and the
terms of every branch as a printed table.
-/

namespace PlaneRegion

/-! ## Samples as comma-separated values

The samples of every branch of every row, labelled by the row, and their file format: a header, and
one record of three fields for each sample.  A field is quoted only if it holds a comma, a quote or
a line break, and a quote inside it is doubled.
-/

/-- The samples of one curve with the label of its row. -/
structure SampledCurve where
  label : String
  /-- Pairs of input and value. -/
  samples : List (Float × Float)
  deriving DecidableEq, Repr

namespace SampledCurve

/-- The label of a branch by its position. -/
def branchLabel (row : Row) (position : Nat) : String :=
  row.label "=" ++ if position = 0 then "" else " (negative root)"

/-- The samples of one row. -/
def ofRow (viewport : Viewport Float) (step : Float) (row : Row) :
    Attempt (Event Float) EquationError (List SampledCurve) := do
  if row.isBlank then
    return []
  else
    let axis ← Attempt.ofExcept (Axis.ofTag row.tag)
    let equation : Equation Float ← Equation.read row.equation
    return (Equation.branches equation).zipIdx.map fun (branch, k) =>
      ⟨branchLabel row k, Curve.tabulate branch (Curve.inputRange axis viewport) step⟩

/-- The samples of all rows, up to the first malformed one. -/
def ofRows (viewport : Viewport Float) (step : Float) (rows : List Row) :
    Attempt (Event Float) EquationError (List SampledCurve) := do
  let curves ← rows.mapM (ofRow viewport step)
  return curves.flatten

end SampledCurve

namespace Csv

/-- The characters that a field can hold in quotes only. -/
def needsQuotes (c : Char) : Bool :=
  c == ',' || c == '"' || c == '\n' || c == '\r'

/-- A character within a quoted field: a quote is written twice. -/
def quotedChar (c : Char) : List Char :=
  if c = '"' then ['"', '"'] else [c]

/-- One field. -/
def field (text : List Char) : List Char :=
  if text.any needsQuotes then '"' :: text.flatMap quotedChar ++ ['"'] else text

/-- One record with its line end. -/
def record (fields : List (List Char)) : List Char :=
  [','].intercalate (fields.map field) ++ ['\n']

/-- The records of a list of curves, after the header. -/
def records (curves : List SampledCurve) : List (List (List Char)) :=
  curves.flatMap fun curve => curve.samples.map fun (input, value) =>
    [curve.label.toList, (Binary64.text input).toList, (Binary64.text value).toList]

/-- The names of the three fields. -/
def header : List (List Char) :=
  ["curve".toList, "input".toList, "value".toList]

/-- A whole file. -/
def document (curves : List SampledCurve) : String :=
  String.ofList ((header :: records curves).flatMap record)

end Csv

/-! ## The table of terms

Every term of every curve, with the row it comes from and the branch of the square roots it belongs
to, as records and as a printed table with rounded corners.
-/

/-- One line of the table of terms. -/
structure TermRow where
  /-- Position of the row, from one. -/
  row : Nat
  /-- The row as it was entered. -/
  curve : String
  /-- The branch of the square roots. -/
  branch : String
  term : String
  deriving DecidableEq, Repr

namespace TermRow

/-- The headers of the table. -/
def headers : List String := ["row", "curve", "branch", "term"]

/-- The cells of one line. -/
def cells (line : TermRow) : List String :=
  [toString line.row, line.curve, line.branch, line.term]

/-- The sign of a branch by its position. -/
def branchSign (position : Nat) : String :=
  if position = 0 then "+" else "-"

/-- The lines for the row at a position. -/
def ofRow (row : Row) (position : Nat) : Attempt (Event Float) EquationError (List TermRow) := do
  if row.isBlank then
    return []
  else
    let equation : Equation Float ← Equation.read row.equation
    return (Equation.branches equation).zipIdx.flatMap fun (branch, k) =>
      branch.map fun term => ⟨position + 1, row.label " = ", branchSign k, term.text⟩

/-- The lines for all rows, up to the first malformed equation. -/
def ofRows (rows : List Row) : Attempt (Event Float) EquationError (List TermRow) := do
  let lines ← rows.zipIdx.mapM fun (row, position) => ofRow row position
  return lines.flatten

end TermRow

namespace Table

/-- A text followed by blanks up to a width. -/
def padded (width : Nat) (cell : String) : String :=
  cell ++ String.ofList (List.replicate (width - Text.columns cell) ' ')

/-- The widths of the columns: each as wide as its widest cell. -/
def widths (headers : List String) (lines : List (List String)) : List Nat :=
  lines.foldl (List.zipWith fun w cell => max w (Text.columns cell)) (headers.map Text.columns)

/-- A horizontal border with the given ends and crossings. -/
def border (left crossing right : String) (widths : List Nat) : String :=
  left ++ crossing.intercalate (widths.map fun w => String.ofList (List.replicate (w + 2) '─')) ++
    right

/-- One line of cells between vertical borders. -/
def lineText (widths : List Nat) (cells : List String) : String :=
  "│ " ++ " │ ".intercalate (List.zipWith padded widths cells) ++ " │"

/-- A table with rounded corners and a border between any two lines. -/
def text (headers : List String) (lines : List (List String)) : String :=
  let widths := widths headers lines
  let separator := "\n" ++ border "├" "┼" "┤" widths ++ "\n"
  border "╭" "┬" "╮" widths ++ "\n" ++
    separator.intercalate ((headers :: lines).map (lineText widths)) ++ "\n" ++
    border "╰" "┴" "╯" widths

end Table
end PlaneRegion
