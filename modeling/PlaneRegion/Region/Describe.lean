import PlaneRegion.Equation.Reader
import PlaneRegion.Journal.Event
import PlaneRegion.Region.Intersection

/-!
# Describing regions

Two inner bounds enclose a region.  Its outer bounds are the points where the inner bounds meet,
completed by an explicit bound if one is given, or two explicit bounds.  The inner bounds are
ordered by their values in the middle of the outer interval.
-/

namespace PlaneRegion

/-! ## Order of integration and given bounds

The rows decide by majority which variable is integrated first.  Rows for the inner variable are
the bounds between which it runs, rows for the outer variable bound the region explicitly.  Blank
rows and rows with an unknown tag have no part in this.
-/

namespace Region

/-- The row has an equation and its tag names the given axis. -/
def isRowOf (axis : Axis) (row : Row) : Bool :=
  match Axis.ofTag row.tag with
  | .ok found => !row.isBlank && found == axis
  | .error _ => false

/-- The order of integration that the numbers of rows decide.  The variable with more rows is the
inner one; two rows of each kind are resolved in favour of `y`. -/
def orderOf (inY inX : Nat) : Option IntegrationOrder :=
  if inX < inY then some .dyDx
  else if inY < inX then some .dxDy
  else if inY = 2 then some .dyDx
  else none

variable {α : Type}

/-- The order of integration of a list of rows. -/
def integrationOrder (rows : List Row) : Traced (Event α) (Option IntegrationOrder) := do
  let inY := rows.countP (isRowOf .y)
  let inX := rows.countP (isRowOf .x)
  Traced.record (.rowsCounted inY inX)
  return orderOf inY inX

/-- The equations of the rows for one axis, in order. -/
def equationsFor (axis : Axis) (rows : List Row) : List String :=
  (rows.filter (isRowOf axis)).map Row.body

/-- The equations of the rows, by the variable they bound. -/
def givenBounds (rows : List Row) (order : IntegrationOrder) : Bounds where
  inner := equationsFor order.inner rows
  outer := equationsFor order.outer rows

end Region

/-! ## Bounds of a region -/

namespace Region

variable {α : Type} [Scalar α]

/-- Read a list of equations, up to the first invalid one. -/
def readAll (equations : List String) : Attempt (Event α) EquationError (List (Equation α)) :=
  equations.mapM Equation.read

/-- Every term of the equation is a constant. -/
def isConstant (equation : Equation α) : Bool :=
  equation.all fun term => term.degree?.map Fin.val == some 0

/-- The values of explicit outer bounds, up to the first that is not a constant. -/
def constantValues : List String → Attempt (Event α) EquationError (Option (List α))
  | [] => return some []
  | text :: rest => do
      let equation ← Equation.read text
      if isConstant equation then
        let values ← constantValues rest
        return values.map (equation.evaluate (Scalar.ofNat 0) :: ·)
      else
        Attempt.record (.variableOuterBound text)
        return none

/-- Explicit outer bounds in ascending order; all of them have to be constants. -/
def explicitOuterBounds (outer : List String) :
    Attempt (Event α) EquationError (Option (List α)) := do
  let values ← constantValues outer
  return values.map Scalar.ascending

/-- The two inner bounds, the one with the lesser value in the middle of the outer interval
first. -/
def orderInnerBounds (first second : String) (lower upper : α) :
    Attempt (Event α) EquationError (String × String) := do
  let middle := (lower + upper) / Scalar.ofNat 2
  let firstValue := (← Equation.read first).evaluate middle
  let secondValue := (← Equation.read second).evaluate middle
  Attempt.record (.innerCompared middle first firstValue second secondValue)
  return if Scalar.less secondValue firstValue then (second, first) else (first, second)

/-- The bounds differ by a constant that is undefined.  What is then derived from them stands
behind all numbers, while any other undefined number stands before them. -/
def differByUndefined (inner : List (Equation α)) : Bool :=
  match difference inner with
  | some q => !Scalar.equal q.constant q.constant
  | none => false

/-- Given bounds and derived ones together, either sorted with each other or the derived ones
last. -/
def joinOuterBounds (derivedLast : Bool) (given derived : List α) : List α :=
  if derivedLast then Scalar.ascending given ++ derived else Scalar.ascending (given ++ derived)

/-- The outer bounds that follow from given bounds and derived ones: without given bounds the
derived ones, else the two least of all. -/
def mergeOuterBounds (derivedLast : Bool) (given derived : Option (List α)) : Option (List α) :=
  match given, derived with
  | some [], derived => derived
  | some given, some derived => some ((joinOuterBounds derivedLast given derived).take 2)
  | _, _ => none

/-- The candidates for the outer bounds of a region. -/
def outerBounds (bounds : Bounds) : Attempt (Event α) EquationError (Option (List α)) := do
  if 2 ≤ bounds.inner.length ∧ bounds.outer.length < 2 then
    let given ← explicitOuterBounds bounds.outer
    let inner ← readAll bounds.inner
    let derived ← Attempt.ofTraced (intersections inner)
    return mergeOuterBounds (differByUndefined inner) given derived
  else if bounds.inner.length = 2 ∧ bounds.outer.length = 2 then
    explicitOuterBounds bounds.outer
  else
    Attempt.record (.unsuitableBounds bounds.inner.length bounds.outer.length)
    return none

/-- A list of two finite numbers, as a pair. -/
def finitePair : List α → Option (α × α)
  | [lower, upper] =>
      if Scalar.isFinite lower && Scalar.isFinite upper then some (lower, upper) else none
  | _ => none

/-- The region between the first two inner bounds, if the bounds determine one. -/
def solve (bounds : Bounds) (order : IntegrationOrder) :
    Attempt (Event α) EquationError (Option (Region α)) := do
  match ← outerBounds bounds, bounds.inner with
  | some outer, first :: second :: _ =>
      match finitePair outer with
      | none =>
          Attempt.record (.openRegion outer)
          return none
      | some (outerLower, outerUpper) =>
          let (innerLower, innerUpper) ← orderInnerBounds first second outerLower outerUpper
          let region := { outerLower, outerUpper, innerLower, innerUpper, order }
          Attempt.record (.regionFound region)
          return some region
  | _, _ => return none

/-- The region that a list of rows encloses, if they determine one. -/
def describe (rows : List Row) : Attempt (Event α) EquationError (Option (Region α)) := do
  match ← Attempt.ofTraced (integrationOrder rows) with
  | some order => solve (givenBounds rows order) order
  | none =>
      Attempt.record .noOrder
      return none

end Region
end PlaneRegion
