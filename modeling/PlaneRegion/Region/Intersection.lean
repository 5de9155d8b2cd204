import PlaneRegion.Journal.Event

/-!
# Intersections of bounds

Where the bounds of a region meet.  Polynomials of degree at most two meet at the zeros of their
difference; a square root meets a power at zero and at one more point.
-/

namespace PlaneRegion
namespace Region

variable {α : Type} [Scalar α]

/-- Add the terms of an equation to the coefficients, or subtract them. -/
def accumulate (positive : Bool) (q : Quadratic α) (equation : Equation α) :
    Option (Quadratic α) :=
  equation.foldlM
    (fun q term => term.degree?.map fun degree =>
      q.adjust degree fun c => if positive then c + term.coefficient else c - term.coefficient)
    q

/-- Add up the equations with alternating signs, given the sign of the first. -/
def alternate (positive : Bool) (q : Quadratic α) : List (Equation α) → Option (Quadratic α)
  | [] => some q
  | equation :: rest => (accumulate positive q equation).bind fun q => alternate (!positive) q rest

/-- The alternating sum of a list of bounds, if all of their terms are powers of degree zero, one or
two.  Of two bounds it is their difference. -/
def difference (bounds : List (Equation α)) : Option (Quadratic α) :=
  alternate true ⟨Scalar.ofNat 0, Scalar.ofNat 0, Scalar.ofNat 0⟩ bounds

/-- The discriminant of a quadratic. -/
def discriminant (q : Quadratic α) : α :=
  q.linear * q.linear - Scalar.ofNat 4 * q.square * q.constant

/-- The zeros of a quadratic of degree two, in ascending order, given the square root of its
discriminant. -/
def zerosFrom (q : Quadratic α) (radical : α) : List α :=
  Scalar.ascending
    [(-q.linear - radical) / (Scalar.ofNat 2 * q.square),
      (-q.linear + radical) / (Scalar.ofNat 2 * q.square)]

/-- The real zeros of a quadratic in ascending order, unless there are none or all numbers are. -/
def zeros (q : Quadratic α) : Traced (Event α) (Option (List α)) := do
  if Scalar.equal q.square (Scalar.ofNat 0) then
    if Scalar.equal q.linear (Scalar.ofNat 0) then
      Traced.record .parallelBounds
      return none
    else
      return some [-q.constant / q.linear]
  else if Scalar.less (discriminant q) (Scalar.ofNat 0) || !Scalar.isFinite (discriminant q) then
    Traced.record (.noIntersection (discriminant q))
    return none
  else
    return some (zerosFrom q (Scalar.sqrt (discriminant q)))

/-- The point other than zero where a square root with the coefficient `c` and the scale `a` meets
a multiple of a power: there the quotient of the coefficients times the root of the scale is the
power of degree `n - 1/2`. -/
def meetingPoint (c a multiple n : α) : α :=
  Scalar.power (c / multiple * Scalar.sqrt a) (Scalar.ofNat 1 / (n - Scalar.half))

/-- The two points where a square root meets a power: zero, and the meeting point if it is
finite. -/
def rootMeetsPower (root power : Term α) : Traced (Event α) (Option (α × α)) := do
  match power.exponent with
  | none => return none
  | some n =>
      let point := meetingPoint root.coefficient root.scale power.coefficient n
      if Scalar.isFinite point then
        return some (Scalar.ofNat 0, point)
      else
        Traced.record (.noFiniteRoot root.coefficient root.scale power.coefficient n)
        return none

/-- The term is a power of the bare variable. -/
def isPlainPower (term : Term α) : Bool :=
  term.isPower && Scalar.equal term.scale (Scalar.ofNat 1)

/-- Two bounds of one term each, a square root and a power, with the root first. -/
def rootAndPower : List (Equation α) → Option (Term α × Term α)
  | [[first], [second]] =>
      if first.isRoot && isPlainPower second then some (first, second)
      else if second.isRoot && isPlainPower first then some (second, first)
      else none
  | _ => none

/-- Where a list of bounds meet, if they are of a kind that can be solved. -/
def intersections (bounds : List (Equation α)) : Traced (Event α) (Option (List α)) := do
  match difference bounds with
  | some q =>
      Traced.record (.polynomialBounds q)
      zeros q
  | none =>
      match rootAndPower bounds with
      | some (root, power) =>
          Traced.record (.rootAgainstPower root power)
          let points ← rootMeetsPower root power
          return points.map fun (first, second) => [first, second]
      | none =>
          Traced.record .unsolvableBounds
          return none

end Region
end PlaneRegion
