import PlaneRegion.Canvas.Recorder

/-!
# Rendering curves

A smooth path is drawn through every maximal run of finite samples.  Around an interior sample the
path follows the chord between the two neighbours of the sample: the controls before and after it
lie on the parallel through the sample, at distances in proportion to those of the neighbours.
-/

namespace PlaneRegion
namespace Curve

variable {α : Type} [Scalar α]

/-- The controls before and after a point, given its neighbours.  If all three points coincide, so
do the controls. -/
def controls (before point after : Point α) (smoothness : α) : Point α × Point α :=
  let distanceBefore := before.distance point
  let total := distanceBefore + point.distance after
  if Scalar.equal total (Scalar.ofNat 0) then
    (point, point)
  else
    let shareBefore := smoothness * distanceBefore / total
    let shareAfter := smoothness - shareBefore
    let width := after.x - before.x
    let height := after.y - before.y
    (⟨point.x - shareBefore * width, point.y - shareBefore * height⟩,
      ⟨point.x + shareAfter * width, point.y + shareAfter * height⟩)

/-- The segments from an interior point of a run to its end: cubic ones while a point follows, and a
quadratic one to the last point.  `control` is the control after `before`. -/
def segmentsFrom (smoothness : α) (control before point : Point α) :
    List (Point α) → List (Segment α)
  | [] => [.quadratic control point]
  | after :: rest =>
      let (left, right) := controls before point after smoothness
      .cubic control left point :: segmentsFrom smoothness right point after rest

/-- The segments of a run after its first point: a line between two points, else curves that begin
and end with a quadratic one. -/
def runSegments (smoothness : α) (first second : Point α) : List (Point α) → List (Segment α)
  | [] => [.line second]
  | third :: rest =>
      let (left, right) := controls first second third smoothness
      .quadratic left second :: segmentsFrom smoothness right second third rest

/-- The calls that draw one run of points; a run of fewer than two points draws nothing. -/
def renderRun (colour : Colour) (smoothness : α) : List (Point α) → List (Call α)
  | first :: second :: rest =>
      .beginPath first :: (runSegments smoothness first second rest).map .extend ++
        [.stroke colour]
  | _ => []

/-- Cut a list of points at the points that are not finite. -/
def runs (points : List (Point α)) : List (List (Point α)) :=
  points.foldr
    (fun point later =>
      match later with
      | run :: rest => if point.isFinite then (point :: run) :: rest else [] :: run :: rest
      | [] => [[]])
    [[]]

/-- The calls that draw the samples of one curve. -/
def render (points : List (Point α)) (colour : Colour) (smoothness : α) : List (Call α) :=
  (runs points).flatMap (renderRun colour smoothness)

/-- The integers of an interval in ascending order. -/
def integersIn (range : α × α) : List Int :=
  let first := Scalar.ceilInt range.1
  let last := Scalar.floorInt range.2
  (List.range (last + 1 - first).toNat).map fun (i : Nat) => first + (i : Int)

/-- Half the length of a tick. -/
def tickReach : α := Scalar.ofPlaces 1 1

/-- The calls that draw both axes and a tick at every integer on them. -/
def axes (viewport : Viewport α) : List (Call α) :=
  let (lowerX, upperX) := viewport.rangeX
  let (lowerY, upperY) := viewport.rangeY
  let zero : α := Scalar.ofNat 0
  let line (x₁ y₁ x₂ y₂ : α) : Call α :=
    .drawLine (viewport.toScreen x₁ y₁) (viewport.toScreen x₂ y₂) .black
  [line zero lowerY zero upperY, line lowerX zero upperX zero] ++
    (integersIn (lowerX, upperX)).map (fun k =>
      line (Scalar.ofInt k) (-tickReach) (Scalar.ofInt k) tickReach) ++
    (integersIn (lowerY, upperY)).map (fun k =>
      line (-tickReach) (Scalar.ofInt k) tickReach (Scalar.ofInt k))

end Curve
end PlaneRegion
