import PlaneRegion.Canvas.Viewport

/-!
# Paths

A path is a start point and a list of segments, each a line or a Bezier curve of degree two or three
that begins where the one before it ends.  Flattening replaces every curved segment by points on it
at equal steps of its parameter.
-/

namespace PlaneRegion

/-! ## Colours

The colours of a drawing: black for the axes, and a cycle of four for the curves.
-/

/-- A colour of a drawing. -/
inductive Colour where
  | black
  | red
  | blue
  | green
  | purple
  deriving DecidableEq, Repr

namespace Colour

/-- The colour of the curve of a row, by the position of the row from zero. -/
def forRow (row : Nat) : Colour :=
  match row % 4 with
  | 0 => red
  | 1 => blue
  | 2 => green
  | _ => purple

/-- The red, green and blue parts of a colour, up to 255. -/
def parts : Colour → Nat × Nat × Nat
  | black => (0, 0, 0)
  | red => (255, 0, 0)
  | blue => (0, 0, 255)
  | green => (0, 128, 0)
  | purple => (128, 0, 128)

/-- Two hexadecimal digits for one part of a colour. -/
def hexPart (part : Nat) : String :=
  let digit (d : Nat) : Char := (Nat.digitChar d).toUpper
  String.ofList [digit (part / 16), digit (part % 16)]

/-- A colour as a number sign and six hexadecimal digits. -/
def hex (colour : Colour) : String :=
  let (r, g, b) := colour.parts
  "#" ++ hexPart r ++ hexPart g ++ hexPart b

end Colour

/-! ## Segments and paths -/

/-- One segment of a path, without its start point. -/
inductive Segment (α : Type) where
  | line (stop : Point α)
  | quadratic (control stop : Point α)
  | cubic (control₁ control₂ stop : Point α)
  deriving DecidableEq, Repr

namespace Segment

variable {α : Type}

/-- The end of a segment. -/
def stop : Segment α → Point α
  | line stop => stop
  | quadratic _ stop => stop
  | cubic _ _ stop => stop

/-- The controls of a segment and its end. -/
def points : Segment α → List (Point α)
  | line stop => [stop]
  | quadratic control stop => [control, stop]
  | cubic control₁ control₂ stop => [control₁, control₂, stop]

variable [Scalar α]

/-- A coordinate of a curve of degree two at the parameter `t`. -/
def quadraticAt (t a b c : α) : α :=
  let u := Scalar.ofNat 1 - t
  u * u * a + Scalar.ofNat 2 * u * t * b + t * t * c

/-- A coordinate of a curve of degree three at the parameter `t`. -/
def cubicAt (t a b c d : α) : α :=
  let u := Scalar.ofNat 1 - t
  u * u * u * a + Scalar.ofNat 3 * u * u * t * b + Scalar.ofNat 3 * u * t * t * c + t * t * t * d

/-- The parameters of `steps` equal steps, from the first step to one. -/
def parameters (steps : Nat) : List α :=
  (List.range steps).map fun i => Scalar.ofNat (i + 1) / Scalar.ofNat steps

/-- The points of a segment that begins at `start`, after the start, with at least one step for a
curve. -/
def flatten (start : Point α) (steps : Nat) : Segment α → List (Point α)
  | line stop => [stop]
  | quadratic c stop =>
      (parameters (max steps 1)).map fun t =>
        ⟨quadraticAt t start.x c.x stop.x, quadraticAt t start.y c.y stop.y⟩
  | cubic c₁ c₂ stop =>
      (parameters (max steps 1)).map fun t =>
        ⟨cubicAt t start.x c₁.x c₂.x stop.x, cubicAt t start.y c₁.y c₂.y stop.y⟩

end Segment

/-- A drawn path. -/
structure StrokedPath (α : Type) where
  start : Point α
  segments : List (Segment α)
  colour : Colour
  deriving DecidableEq, Repr

namespace StrokedPath

variable {α : Type} [Scalar α]

/-- The flattened segments of a path that has come to `start`, one block per segment. -/
def blocks (steps : Nat) : Point α → List (Segment α) → List (List (Point α))
  | _, [] => []
  | start, segment :: rest => segment.flatten start steps :: blocks steps segment.stop rest

/-- The polyline of a path, with `steps` points for each curved segment. -/
def flatten (path : StrokedPath α) (steps : Nat) : List (Point α) :=
  path.start :: (blocks steps path.start path.segments).flatten

end StrokedPath
end PlaneRegion
