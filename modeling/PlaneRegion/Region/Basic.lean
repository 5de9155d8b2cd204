import PlaneRegion.Text.Character

/-!
# Rows and regions

What is entered is a list of rows, each an equation for one of the two variables; what is described
is the region between them.
-/

namespace PlaneRegion

/-! ## Axes, rows and malformed equations

A row of input is an axis tag and an equation: the tag `y` reads the row as `y = f(x)`, the tag `x`
as `x = f(y)`.
-/

/-- The variable on the left-hand side of a row. -/
inductive Axis where
  /-- The row is an equation for `x` in terms of `y`. -/
  | x
  /-- The row is an equation for `y` in terms of `x`. -/
  | y
  deriving DecidableEq, Repr

/-- A piece of input that cannot be read: a term of an equation, or an axis tag. -/
structure EquationError where
  /-- The offending piece as it was written. -/
  piece : String
  deriving DecidableEq, Repr

/-- The notice about a malformed equation. -/
def EquationError.message (error : EquationError) : String :=
  "Invalid equation entered. Please check formatting: " ++ error.piece

namespace Axis

/-- The free variable of a row with this tag. -/
def other : Axis → Axis
  | x => y
  | y => x

/-- The tag of an axis. -/
def name : Axis → String
  | x => "x"
  | y => "y"

/-- The axis that a tag names; blanks around the name are allowed. -/
def ofTag (tag : String) : Except EquationError Axis :=
  if Text.trimmed tag = "x" then .ok x
  else if Text.trimmed tag = "y" then .ok y
  else .error ⟨tag⟩

end Axis

/-- One row of input. -/
structure Row where
  /-- The text in front of the equals sign. -/
  tag : String
  /-- The text after the equals sign. -/
  equation : String
  deriving DecidableEq, Repr

namespace Row

/-- The row in which nothing has been entered. -/
def empty : Row := ⟨"", ""⟩

/-- A row without an equation. -/
def isBlank (row : Row) : Bool :=
  Text.isAllBlank row.equation.toList

/-- The equation without the blanks around it. -/
def body (row : Row) : String :=
  Text.trimmed row.equation

/-- The tag and the equation without the blanks around them, joined. -/
def label (row : Row) (joint : String) : String :=
  Text.trimmed row.tag ++ joint ++ row.body

end Row

/-! ## Regions of integration

A region is described as an iterated integral asks for it: an interval of the outer variable, and
two equations between which the inner variable runs.
-/

/-- Which of the two variables is integrated first. -/
inductive IntegrationOrder where
  /-- First over `y`, then over `x`. -/
  | dyDx
  /-- First over `x`, then over `y`. -/
  | dxDy
  deriving DecidableEq, Repr

namespace IntegrationOrder

/-- The variable integrated first. -/
def inner : IntegrationOrder → Axis
  | dyDx => .y
  | dxDy => .x

/-- The variable integrated last. -/
def outer (order : IntegrationOrder) : Axis :=
  order.inner.other

/-- The differentials in the order of integration. -/
def text (order : IntegrationOrder) : String :=
  "d" ++ order.inner.name ++ " d" ++ order.outer.name

end IntegrationOrder

/-- The equations that bound a region, by the variable they bound. -/
structure Bounds where
  /-- Bounds of the inner variable. -/
  inner : List String
  /-- Bounds of the outer variable. -/
  outer : List String
  deriving DecidableEq, Repr

/-- The region `outerLower ≤ outer ≤ outerUpper`, `innerLower ≤ inner ≤ innerUpper`. -/
structure Region (α : Type) where
  outerLower : α
  outerUpper : α
  /-- Equation for the least value of the inner variable. -/
  innerLower : String
  /-- Equation for the greatest value of the inner variable. -/
  innerUpper : String
  order : IntegrationOrder
  deriving DecidableEq, Repr

/-- The coefficients of `constant + linear * t + square * t ^ 2`. -/
structure Quadratic (α : Type) where
  /-- Coefficient of degree zero. -/
  constant : α
  /-- Coefficient of degree one. -/
  linear : α
  /-- Coefficient of degree two. -/
  square : α
  deriving DecidableEq, Repr

namespace Quadratic

variable {α : Type}

/-- Change the coefficient of one degree. -/
def adjust (q : Quadratic α) (degree : Fin 3) (change : α → α) : Quadratic α :=
  match degree with
  | 0 => { q with constant := change q.constant }
  | 1 => { q with linear := change q.linear }
  | 2 => { q with square := change q.square }

/-- The coefficients by ascending degree. -/
def toList (q : Quadratic α) : List α :=
  [q.constant, q.linear, q.square]

end Quadratic
end PlaneRegion
