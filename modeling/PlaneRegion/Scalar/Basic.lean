import PlaneRegion.Binary64.Basic
import PlaneRegion.Decimal.Numeral

/-!
# Scalars

The arithmetic that equations, regions and drawings are computed in.  Every function of the library
that computes with numbers is written for an arbitrary scalar type, so it can be run over binary64
numbers and be studied over exact ones.  The class holds operations only; it promises no laws.
-/

namespace PlaneRegion

/-- The operations on numbers that the library uses. -/
class Scalar (α : Type) extends Add α, Sub α, Mul α, Div α, Neg α where
  /-- The number nearest to an integer. -/
  ofInt : Int → α
  /-- The number nearest to a decimal. -/
  ofDecimal : Decimal → α
  equal : α → α → Bool
  less : α → α → Bool
  /-- Order or equality. -/
  atMost : α → α → Bool
  /-- The total order that lists of numbers are sorted by. -/
  precedes : α → α → Bool
  /-- The number is defined and not infinite. -/
  isFinite : α → Bool
  /-- The greatest integer not above a number, within the range of machine integers. -/
  floorInt : α → Int
  /-- The least integer not below a number, within the range of machine integers. -/
  ceilInt : α → Int
  /-- The greatest integer not above a number. -/
  floor : α → α
  /-- The least integer not below a number. -/
  ceil : α → α
  abs : α → α
  sqrt : α → α
  /-- The first number to the power of the second. -/
  power : α → α → α
  /-- Length of the hypotenuse over two legs. -/
  hypot : α → α → α
  exp : α → α
  log : α → α
  /-- Sine of an angle in radians. -/
  sin : α → α
  /-- Cosine of an angle in radians. -/
  cos : α → α
  tan : α → α
  asin : α → α
  acos : α → α
  atan : α → α

-- A type with arithmetic of its own keeps writing it in its own way.
attribute [instance (low)] Scalar.toAdd Scalar.toSub Scalar.toMul Scalar.toDiv Scalar.toNeg

namespace Scalar

variable {α : Type} [Scalar α]

/-- A natural number as a scalar. -/
def ofNat (n : Nat) : α := ofInt n

/-- A positive decimal with `places` digits after the point as a scalar. -/
def ofPlaces (digits places : Nat) : α := ofDecimal ⟨false, digits, -places⟩

/-- One half. -/
def half : α := ofPlaces 5 1

/-- The result of an operation without a value. -/
def undefined : α := ofNat 0 / ofNat 0

/-- The sum of a list from left to right, starting from the negative zero. -/
def sum (values : List α) : α :=
  values.foldl (· + ·) (-ofNat 0)

/-- Put a number before the first one of a list that it precedes. -/
def insertAscending (value : α) : List α → List α
  | [] => [value]
  | head :: tail =>
      if precedes value head then value :: head :: tail else head :: insertAscending value tail

/-- A list of numbers in ascending order. -/
def ascending (values : List α) : List α :=
  values.foldr insertAscending []

end Scalar

/-! ## Binary64 numbers as scalars

The arithmetic in which the program itself computes.
-/

instance : Scalar Float where
  ofInt := Binary64.ofInt
  ofDecimal := Binary64.ofDecimal
  equal x y := x == y
  less x y := x < y
  atMost x y := x ≤ y
  precedes x y := Binary64.rank x ≤ Binary64.rank y
  isFinite := Float.isFinite
  floorInt := Binary64.floorInt
  ceilInt := Binary64.ceilInt
  floor := Binary64.floor
  ceil := Binary64.ceil
  abs := Float.abs
  sqrt := Float.sqrt
  power := Binary64.power
  hypot := Binary64.hypot
  exp := Float.exp
  log := Float.log
  sin := Float.sin
  cos := Float.cos
  tan := Float.tan
  asin := Float.asin
  acos := Float.acos
  atan := Float.atan

end PlaneRegion
