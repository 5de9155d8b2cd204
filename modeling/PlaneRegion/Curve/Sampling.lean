import PlaneRegion.Canvas.Viewport
import PlaneRegion.Journal.Event

/-!
# Sampling curves

A curve is evaluated at equal steps over the visible range of its free variable.  The samples are
pairs of input and value; on the screen the coordinates of a row for `x` are exchanged.
-/

namespace PlaneRegion

/-- How finely curves are sampled and how smoothly they are drawn. -/
structure Sampling (α : Type) where
  /-- Distance between two inputs. -/
  step : α
  /-- Share of the distance between the neighbours of a sample that its controls span. -/
  smoothness : α
  deriving DecidableEq, Repr

/-- Why a sampling can not be used. -/
inductive SamplingFault (α : Type) where
  /-- The step is too small or not finite. -/
  | step (step : α)
  /-- The smoothness is negative or not finite. -/
  | smoothness (smoothness : α)
  deriving DecidableEq, Repr

namespace Sampling

variable {α : Type} [Scalar α]

/-- The least step. -/
def minStep : α := Scalar.ofPlaces 1 3

/-- The sampling used unless another is asked for. -/
def standard : Sampling α := ⟨Scalar.ofPlaces 1 2, Scalar.ofPlaces 5 1⟩

/-- The first fault of a sampling. -/
def fault? (s : Sampling α) : Option (SamplingFault α) :=
  if !(Scalar.atMost minStep s.step && Scalar.isFinite s.step) then some (.step s.step)
  else if !(Scalar.atMost (Scalar.ofNat 0) s.smoothness && Scalar.isFinite s.smoothness) then
    some (.smoothness s.smoothness)
  else none

end Sampling

/-- The notice about an unusable sampling. -/
def SamplingFault.message : SamplingFault Float → String
  | step given => "sampling step must be at least 0.001, got " ++ Binary64.text given
  | smoothness given => "smoothness must be non negative, got " ++ Binary64.text given

namespace Curve

variable {α : Type} [Scalar α]

/-- The numbers `start + i * step` below `stop`, for `i = 0, 1, 2, …`; none for a step that is not
positive or a range that is empty. -/
def inputs (start stop step : α) : List α :=
  if Scalar.less (Scalar.ofNat 0) step && Scalar.less start stop then
    let count := (Scalar.ceilInt ((stop - start) / step)).toNat
    ((List.range count).map fun i => start + Scalar.ofNat i * step).filter
      (Scalar.less · stop)
  else
    []

/-- The visible range of the free variable of a row: `x` for a row for `y`, `y` for a row
for `x`. -/
def inputRange (axis : Axis) (viewport : Viewport α) : α × α :=
  match axis with
  | .y => viewport.rangeX
  | .x => viewport.rangeY

/-- The samples of an equation: pairs of input and value. -/
def tabulate (equation : Equation α) (range : α × α) (step : α) : List (α × α) :=
  (inputs range.1 range.2 step).map fun input => (input, equation.evaluate input)

/-- The screen point of a sample of a row for the given axis. -/
def place (axis : Axis) (viewport : Viewport α) (sample : α × α) : Point α :=
  match axis with
  | .y => viewport.toScreen sample.1 sample.2
  | .x => viewport.toScreen sample.2 sample.1

/-- The samples of an equation on the screen.  Where the equation has no value, neither has the
point. -/
def sample (equation : Equation α) (axis : Axis) (range : α × α) (step : α)
    (viewport : Viewport α) : Traced (Event α) (List (Point α)) := do
  let points := (tabulate equation range step).map (place axis viewport)
  Traced.record (.curveSampled points.length axis range.1 range.2)
  return points

end Curve
end PlaneRegion
