import PlaneRegion.Canvas.Path

/-!
# Recording a drawing

A drawing is made by calls: lines are drawn at once, paths are begun, extended and stroked.  The
recorder keeps the finished strokes as a display list, and at most one path that is still open.
-/

namespace PlaneRegion

/-- One call to a canvas. -/
inductive Call (α : Type) where
  /-- Remove everything drawn so far. -/
  | clear
  | drawLine (start stop : Point α) (colour : Colour)
  /-- Begin a new path; one that is still open is forgotten. -/
  | beginPath (start : Point α)
  /-- Extend the open path by a segment. -/
  | extend (segment : Segment α)
  /-- Finish the open path. -/
  | stroke (colour : Colour)
  deriving DecidableEq, Repr

/-- One finished stroke. -/
inductive Stroke (α : Type) where
  | line (start stop : Point α) (colour : Colour)
  | path (path : StrokedPath α)
  deriving DecidableEq, Repr

namespace Stroke

variable {α : Type}

/-- The path of a stroke that is one. -/
def path? : Stroke α → Option (StrokedPath α)
  | line .. => none
  | path p => some p

/-- The stroke is a straight line. -/
def isLine : Stroke α → Bool
  | line .. => true
  | path _ => false

end Stroke

/-- A path that has been begun and not been stroked. -/
structure OpenPath (α : Type) where
  start : Point α
  segments : Array (Segment α)
  deriving DecidableEq, Repr

/-- A canvas that keeps what is drawn on it. -/
structure Recorder (α : Type) where
  /-- The finished strokes in drawing order. -/
  strokes : Array (Stroke α)
  /-- The open path, if there is one. -/
  openPath : Option (OpenPath α)
  deriving DecidableEq, Repr

namespace Recorder

variable {α : Type}

/-- The canvas on which nothing has been drawn. -/
def blank : Recorder α := ⟨#[], none⟩

/-- Perform one call.  Segments and strokes without an open path do nothing. -/
def perform (recorder : Recorder α) : Call α → Recorder α
  | .clear => blank
  | .drawLine start stop colour =>
      { recorder with strokes := recorder.strokes.push (.line start stop colour) }
  | .beginPath start => { recorder with openPath := some ⟨start, #[]⟩ }
  | .extend segment =>
      match recorder with
      | ⟨strokes, some ⟨start, segments⟩⟩ => ⟨strokes, some ⟨start, segments.push segment⟩⟩
      | ⟨strokes, none⟩ => ⟨strokes, none⟩
  | .stroke colour =>
      match recorder with
      | ⟨strokes, some ⟨start, segments⟩⟩ =>
          ⟨strokes.push (.path ⟨start, segments.toList, colour⟩), none⟩
      | ⟨strokes, none⟩ => ⟨strokes, none⟩

/-- Perform calls one after the other. -/
def performAll (recorder : Recorder α) (calls : List (Call α)) : Recorder α :=
  calls.foldl perform recorder

/-- The display list: the finished strokes in drawing order. -/
def displayList (recorder : Recorder α) : List (Stroke α) :=
  recorder.strokes.toList

/-- The paths of the display list. -/
def paths (recorder : Recorder α) : List (StrokedPath α) :=
  recorder.displayList.filterMap Stroke.path?

/-- The number of straight lines in the display list. -/
def lineCount (recorder : Recorder α) : Nat :=
  recorder.displayList.countP Stroke.isLine

end Recorder
end PlaneRegion
