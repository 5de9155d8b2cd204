import PlaneRegion.Task.Run

/-!
# The gallery and the command line

With a path the program runs the task document there; without one it shows the first piece of the
gallery.  Further arguments are ignored.
-/

namespace PlaneRegion

/-! ## The gallery

Six small programs that show what the library does: a region between two curves, the terms of an
equation, the steps that lead to a region, a custom canvas, a task document, and a malformed row.
-/

namespace Gallery

/-- An optional value with its presence named. -/
def optional {α : Type} (show? : α → String) : Option α → String
  | some a => "Some(" ++ show? a ++ ")"
  | none => "None"

/-- A list of quoted texts in square brackets. -/
def quotedList (texts : List String) : String :=
  "[" ++ ", ".intercalate (texts.map Text.quoted) ++ "]"

/-- The region of a notice, quoted. -/
def regionOf (notice : Notice Float) : String :=
  optional (fun region => Text.quoted (Region.text region)) notice.region

/-- The error of a notice, quoted. -/
def errorOf (notice : Notice Float) : String :=
  optional (fun error => Text.quoted (EquationError.notice error)) notice.error

variable {m : Type → Type} [Monad m] [Host m]

/-- Submit rows in a session. -/
def submitted (session : Session Float) (rows : List Row) : m (Session Float) :=
  Host.play (session.loadRows rows).submit

/-- Report a plot that can not be saved. -/
def saved {ε : Type} (result : Except ε Unit) (reason : ε → String) : m Unit :=
  match result with
  | .ok _ => pure ()
  | .error e => Host.print ("can not save the plot: " ++ reason e)

/-- The region between a parabola and a line. -/
def parabolaAndLine : m Unit := do
  let session ← submitted .new [⟨"y", "x^2"⟩, ⟨"y", "4"⟩]
  Host.print ("domain: " ++ regionOf session.notice ++ ", error: " ++ errorOf session.notice)
  let result ← (Task.savePng "parabola_and_line.png" session.viewport session.canvas).run
  saved result Task.pngReason

/-- The terms of an equation and its values, and the two branches of a square root. -/
def termsAndValues : m Unit := do
  let input := "2x^2+3sqrt(4x)-5"
  Host.print ("terms of " ++ input ++ ": " ++
    quotedList ((Equation.separate input.toList).map String.ofList))
  match ← Host.play (Equation.read input).settle with
  | .error error => Host.print error.message
  | .ok equation =>
      for term in equation do
        Host.print (Term.text term)
      Host.print ("f(1) = " ++ Binary64.text (Equation.evaluate equation 1) ++ ", f(-1) = " ++
        Binary64.text (Equation.evaluate equation (-1)))
  match ← Host.play (Equation.read "sqrt(4y)").settle with
  | .error error => Host.print error.message
  | .ok equation =>
      for branch in Equation.branches equation do
        Host.print ("branch at y = 1: " ++ Binary64.text (Equation.evaluate branch 1))

/-- The order of integration, the given bounds, their intersections and the region. -/
def stepByStep : m Unit := do
  let rows : List Row := [⟨"x", "sqrt(4y)"⟩, ⟨"x", "y"⟩]
  match ← Host.play (Region.integrationOrder rows) with
  | none => Host.print "no domain could be described"
  | some order =>
      Host.print ("order of integration: " ++ order.text)
      let bounds := Region.givenBounds rows order
      Host.print ("inner bounds " ++ quotedList bounds.inner ++ ", outer bounds " ++
        quotedList bounds.outer)
      match ← Host.play (Region.solve bounds order).settle with
      | .ok (some region) => Host.print (Region.text region)
      | .ok none => Host.print "no domain could be described"
      | .error error => Host.print error.message
  match ← Host.play (Region.readAll ["x^2", "x"]).settle with
  | .error error => Host.print error.message
  | .ok equations =>
      let zeros ← match Region.difference equations with
        | some q => Host.play (Region.zeros q)
        | none => pure none
      Host.print ("x^2 = x at " ++ optional Binary64.detailedList zeros)

/-- Explicit outer bounds on a canvas of another size. -/
def customCanvas : m Unit := do
  match Session.withSettings ⟨800, 600, 40, 40⟩ ⟨0.05, 0.5⟩ with
  | .error refusal => Host.print refusal.message
  | .ok session =>
      let session ← submitted session [⟨"y", "x"⟩, ⟨"y", "2x"⟩, ⟨"x", "3"⟩, ⟨"x", "1"⟩]
      Host.print ("SessionOutput \x7b domain: " ++ regionOf session.notice ++ ", error: " ++
        errorOf session.notice ++ " \x7d")
      let result ← (Task.saveSvg "wedge.svg" session.viewport session.canvas).run
      saved result Task.svgReason

/-- A document for the region between two parabolas. -/
def twoParabolas : String :=
  "// the region between two parabolas\ncanvas\nwidth: 600\nheight: 350\nsampling\nstep: 0.01\n" ++
    "curves\ny: x^2\ny: -x^2+2\noutput\ncsv: two_parabolas.csv\n"

/-- A task document. -/
def taskDocument : m Unit := do
  match Task.ofDocument twoParabolas with
  | .error fault => Host.print fault.message
  | .ok task =>
      match ← (Task.run task).run with
      | .ok report => Host.print (toString report.paths ++ " paths drawn")
      | .error error => Host.print error.message

/-- A malformed row. -/
def malformedRow : m Unit := do
  let session ← submitted .new [⟨"y", "x^2"⟩, ⟨"y", "4w"⟩]
  Host.print (errorOf session.notice)

/-- Show one piece of the gallery, with a log. -/
def display (piece : Nat) : m Unit := do
  match ← (Task.startLog (some "info") false).run with
  | .ok _ => pure ()
  | .error error => Host.print error.message
  match piece with
  | 0 => parabolaAndLine
  | 1 => termsAndValues
  | 2 => stepByStep
  | 3 => customCanvas
  | 4 => taskDocument
  | 5 => malformedRow
  | _ => Host.print ("example " ++ toString piece ++ " does not exist")

end Gallery

/-! ## The program -/

namespace CommandLine

variable {m : Type → Type} [Monad m] [Host m]

/-- Run the program and give its exit code. -/
def run (arguments : List String) : m UInt32 := do
  match arguments with
  | [] =>
      Gallery.display 0
      return 0
  | path :: _ =>
      match ← (Task.runFile path).run with
      | .ok _ => return 0
      | .error error =>
          Host.complain error.message
          return 1

end CommandLine
end PlaneRegion
