import PlaneRegion.Scalar.Basic

/-!
# Terms

A term is one additive piece of an equation, `coefficient * operation (scale * t)`: a power of the
variable, a square root of it, or a named function of it.  Constants and linear terms are the powers
of degree zero and one.  An equation is the list of its terms, and its value their sum.
-/

namespace PlaneRegion

/-! ## Named functions

The elementary functions that a term may apply by name.
-/

/-- A function that a term may apply by name. -/
inductive NamedFunction where
  | abs
  | acos
  | asin
  | atan
  | ceil
  | cos
  | exp
  | floor
  | log
  | round
  | sin
  | tan
  deriving DecidableEq, Repr

namespace NamedFunction

/-- All named functions in alphabetical order. -/
def all : List NamedFunction :=
  [abs, acos, asin, atan, ceil, cos, exp, floor, log, round, sin, tan]

/-- The name of a function in an equation. -/
def name : NamedFunction → String
  | abs => "abs"
  | acos => "acos"
  | asin => "asin"
  | atan => "atan"
  | ceil => "ceil"
  | cos => "cos"
  | exp => "exp"
  | floor => "floor"
  | log => "log"
  | round => "round"
  | sin => "sin"
  | tan => "tan"

/-- The function with a given name. -/
def ofName (text : String) : Option NamedFunction :=
  all.find? fun function => function.name == text

/-- The value of a function.  Rounding sends a half to the greater neighbour. -/
def apply {α : Type} [Scalar α] : NamedFunction → α → α
  | abs, t => Scalar.abs t
  | acos, t => Scalar.acos t
  | asin, t => Scalar.asin t
  | atan, t => Scalar.atan t
  | ceil, t => Scalar.ceil t
  | cos, t => Scalar.cos t
  | exp, t => Scalar.exp t
  | floor, t => Scalar.floor t
  | log, t => Scalar.log t
  | round, t => Scalar.floor (t + Scalar.half)
  | sin, t => Scalar.sin t
  | tan, t => Scalar.tan t

end NamedFunction

/-! ## Terms and equations -/

/-- How a term uses its argument. -/
inductive Operation where
  | power
  | root
  | named (function : NamedFunction)
  deriving DecidableEq, Repr

/-- One additive piece of an equation. -/
structure Term (α : Type) where
  /-- The factor in front of the operation. -/
  coefficient : α
  /-- What is done with the argument. -/
  operation : Operation
  /-- The factor of the variable inside the argument. -/
  scale : α
  /-- The exponent of a power; other operations use none. -/
  exponent : Option α
  deriving DecidableEq, Repr

/-- The right-hand side of a row: a sum of terms. -/
abbrev Equation (α : Type) := List (Term α)

namespace Term

variable {α : Type} [Scalar α]

/-- The term `coefficient * t ^ degree`. -/
def power (coefficient degree : α) : Term α :=
  ⟨coefficient, .power, Scalar.ofNat 1, some degree⟩

/-- A term without the variable. -/
def constant (coefficient : α) : Term α :=
  power coefficient (Scalar.ofNat 0)

/-- The term `coefficient * t`. -/
def linear (coefficient : α) : Term α :=
  power coefficient (Scalar.ofNat 1)

/-- The term `coefficient * sqrt (scale * t)`. -/
def root (coefficient scale : α) : Term α :=
  ⟨coefficient, .root, scale, none⟩

/-- The term `coefficient * function (scale * t)`. -/
def named (coefficient : α) (function : NamedFunction) (scale : α) : Term α :=
  ⟨coefficient, .named function, scale, none⟩

omit [Scalar α] in
/-- The term is a square root. -/
def isRoot (term : Term α) : Bool :=
  term.operation == .root

omit [Scalar α] in
/-- The term is a power. -/
def isPower (term : Term α) : Bool :=
  term.operation == .power

/-- The degree of a power of degree zero, one or two. -/
def degree? (term : Term α) : Option (Fin 3) :=
  match term.operation, term.exponent with
  | .power, some n =>
      if Scalar.equal n (Scalar.ofNat 0) then some 0
      else if Scalar.equal n (Scalar.ofNat 1) then some 1
      else if Scalar.equal n (Scalar.ofNat 2) then some 2
      else none
  | _, _ => none

/-- The same term on the other branch of its square root; a term without root has one branch. -/
def negatedRoot (term : Term α) : Term α :=
  if term.isRoot then { term with coefficient := -term.coefficient } else term

/-- A square root as the power with exponent one half; other terms stay as they are. -/
def rootAsPower (term : Term α) : Term α :=
  if term.isRoot then { term with operation := .power, exponent := some Scalar.half } else term

/-- The value of a term.  The power with exponent zero is one whatever its base is. -/
def evaluate (term : Term α) (input : α) : α :=
  let argument := term.scale * input
  let value :=
    match term.operation with
    | .power =>
        match term.exponent with
        | some n =>
            if Scalar.equal n (Scalar.ofNat 0) then Scalar.ofNat 1 else Scalar.power argument n
        | none => Scalar.undefined
    | .root => Scalar.sqrt argument
    | .named function => function.apply argument
  term.coefficient * value

end Term

namespace Equation

variable {α : Type} [Scalar α]

/-- The value of an equation: the sum of its terms in order. -/
def evaluate (equation : Equation α) (input : α) : α :=
  Scalar.sum (equation.map fun term => term.evaluate input)

/-- The curves that an equation describes: itself and, if it has a square root, the same equation
on the other branch of every root. -/
def branches (equation : Equation α) : List (Equation α) :=
  if equation.any Term.isRoot then [equation, equation.map Term.negatedRoot] else [equation]

end Equation

/-! ## Forms of a written term

What the reader of terms recognises in a written term, before it becomes a term.
-/

/-- The form of a written term. -/
inductive TermForm (α : Type) where
  /-- A numeral. -/
  | constant (coefficient : α)
  /-- A multiple of the variable. -/
  | linear (coefficient : α)
  /-- A multiple of a power of the variable. -/
  | power (coefficient degree : α)
  /-- A multiple of a square root of a multiple of the variable. -/
  | root (coefficient scale : α)
  /-- A multiple of a named function of a multiple of the variable. -/
  | named (coefficient : α) (function : NamedFunction) (scale : α)
  /-- None of these. -/
  | invalid
  deriving DecidableEq, Repr

/-- The term that a form describes. -/
def TermForm.toTerm? {α : Type} [Scalar α] : TermForm α → Option (Term α)
  | constant coefficient => some (.constant coefficient)
  | linear coefficient => some (.linear coefficient)
  | power coefficient degree => some (.power coefficient degree)
  | root coefficient scale => some (.root coefficient scale)
  | named coefficient function scale => some (.named coefficient function scale)
  | invalid => none

end PlaneRegion
