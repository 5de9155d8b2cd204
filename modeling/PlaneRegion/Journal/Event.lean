import PlaneRegion.Binary64.Text
import PlaneRegion.Journal.Traced
import PlaneRegion.Region.Basic
import PlaneRegion.Term.Basic

/-!
# Events

What the library reports while it reads equations, solves for regions and draws curves.  An event
says what happened; its level and its text are functions of it.
-/

namespace PlaneRegion

/-- How much attention an event deserves. -/
inductive Level where
  | error
  | warn
  | info
  | debug
  deriving DecidableEq, Repr

namespace Level

/-- Position of a level; a log shows the events up to the position of its own level. -/
def verbosity : Level → Nat
  | error => 1
  | warn => 2
  | info => 3
  | debug => 4

/-- The name of a level in a log. -/
def name : Level → String
  | error => "ERROR"
  | warn => "WARN"
  | info => "INFO"
  | debug => "DEBUG"

end Level

/-- Something worth reporting. -/
inductive Event (α : Type) where
  /-- A term of an equation is empty or a lone sign. -/
  | emptyTerm (term : String)
  /-- A term was completed by its coefficient and recognised as a form. -/
  | termRead (term normalized : String) (form : TermForm α)
  /-- A term has no valid form. -/
  | invalidTerm (term : String)
  | rowsCounted (inY inX : Nat)
  /-- The rows do not settle the order of integration. -/
  | noOrder
  /-- Two bounds differ by a constant. -/
  | parallelBounds
  | noIntersection (discriminant : α)
  /-- A square root and a power meet at no finite point but zero. -/
  | noFiniteRoot (rootCoefficient scale powerCoefficient degree : α)
  /-- All bounds are polynomials of degree at most two. -/
  | polynomialBounds (difference : Quadratic α)
  /-- One bound is a square root, the other a power. -/
  | rootAgainstPower (root power : Term α)
  /-- The bounds are of no kind that can be solved. -/
  | unsolvableBounds
  /-- A bound of the outer variable depends on the inner one. -/
  | variableOuterBound (equation : String)
  /-- Two inner bounds were compared at a point. -/
  | innerCompared (point : α) (first : String) (firstValue : α) (second : String) (secondValue : α)
  /-- The numbers of bounds fit no region. -/
  | unsuitableBounds (inner outer : Nat)
  /-- The outer bounds are not two finite numbers. -/
  | openRegion (bounds : List α)
  | regionFound (region : Region α)
  | curveSampled (samples : Nat) (axis : Axis) (lower upper : α)
  | curvesDrawn (curves : Nat)
  /-- An equation or an axis tag was refused. -/
  | refused (error : EquationError)
  | logStarted (level : Level)
  | taskLoaded (path : String) (rows : Nat)
  | canvasSaved (path : String)
  | samplesSaved (curves : Nat) (path : String)
  | taskFinished (paths : Nat)
  deriving Repr

/-- A form with its parts named, for the log. -/
def TermForm.describe : TermForm Float → String
  | constant c => "Constant(" ++ Binary64.detailed c ++ ")"
  | linear c => "Linear(" ++ Binary64.detailed c ++ ")"
  | power c degree =>
      "Power \x7b coefficient: " ++ Binary64.detailed c ++ ", degree: " ++
        Binary64.detailed degree ++ " \x7d"
  | root c scale =>
      "Sqrt \x7b coefficient: " ++ Binary64.detailed c ++ ", scale: " ++
        Binary64.detailed scale ++ " \x7d"
  | named c function scale =>
      "UnaryMath \x7b coefficient: " ++ Binary64.detailed c ++ ", function: " ++
        function.name.capitalize ++ ", scale: " ++ Binary64.detailed scale ++ " \x7d"
  | invalid => "Invalid"

/-- A term as it is shown, with `t` for the variable. -/
def Term.text (term : Term Float) : String :=
  let coefficient := Binary64.text term.coefficient
  match term.operation, term.exponent with
  | .power, some n =>
      if n == 0 then coefficient
      else if n == 1 then coefficient ++ "*t"
      else coefficient ++ "*t^" ++ Binary64.text n
  | .power, none => coefficient ++ "*t^?"
  | .root, _ => coefficient ++ "*sqrt(" ++ Binary64.text term.scale ++ "*t)"
  | .named function, _ =>
      coefficient ++ "*" ++ function.name ++ "(" ++ Binary64.text term.scale ++ "*t)"

/-- A region as a set of points. -/
def Region.text (region : Region Float) : String :=
  "D = \x7b(x,y) | " ++ Binary64.text region.outerLower ++ " <= " ++ region.order.outer.name ++
    " <= " ++ Binary64.text region.outerUpper ++ ", " ++ region.innerLower ++ " <= " ++
    region.order.inner.name ++ " <= " ++ region.innerUpper ++ "\x7d"

/-- A list of numbers in detailed form, in square brackets. -/
def Binary64.detailedList (values : List Float) : String :=
  "[" ++ ", ".intercalate (values.map Binary64.detailed) ++ "]"

namespace Event

/-- The level of an event. -/
def level : Event Float → Level
  | termRead .. | rowsCounted .. | innerCompared .. | curveSampled .. => .debug
  | emptyTerm _ | invalidTerm _ | parallelBounds | noIntersection _ | noFiniteRoot ..
  | variableOuterBound _ | refused _ => .warn
  | _ => .info

/-- The part of the program that debug events name as their origin. -/
def origin : Event Float → String
  | termRead .. => "RustedDomain::symbolic::term_parser"
  | curveSampled .. => "RustedDomain::Utils::plots"
  | _ => "RustedDomain::numerical::boundary_solver"

/-- The text of an event. -/
def text : Event Float → String
  | emptyTerm term => "term '" ++ term ++ "' has no body"
  | termRead term normalized form =>
      "term '" ++ term ++ "' normalized to '" ++ normalized ++ "' -> " ++ form.describe
  | invalidTerm term => "term '" ++ term ++ "' can not be classified"
  | rowsCounted inY inX =>
      toString inY ++ " rows in terms of y, " ++ toString inX ++ " rows in terms of x"
  | noOrder => "order of integration can not be determined"
  | parallelBounds => "bounds are parallel, no intersection"
  | noIntersection discriminant =>
      "no real intersection, discriminant = " ++ Binary64.text discriminant
  | noFiniteRoot c1 a c2 n =>
      "c1 sqrt(a t) = c2 t^n has no finite root for c1 = " ++ Binary64.text c1 ++ ", a = " ++
        Binary64.text a ++ ", c2 = " ++ Binary64.text c2 ++ ", n = " ++ Binary64.text n
  | polynomialBounds difference =>
      "polynomial bounds, coefficients " ++ Binary64.detailedList difference.toList
  | rootAgainstPower root power =>
      "square root against power: " ++ root.text ++ " = " ++ power.text
  | unsolvableBounds => "bounds are neither polynomials nor a square root against a power"
  | variableOuterBound equation => "outer bound '" ++ equation ++ "' is not a constant"
  | innerCompared point first firstValue second secondValue =>
      "at " ++ Binary64.text point ++ ": " ++ first ++ " = " ++ Binary64.text firstValue ++ ", " ++
        second ++ " = " ++ Binary64.text secondValue
  | unsuitableBounds inner outer =>
      toString inner ++ " inner and " ++ toString outer ++ " outer bounds can not describe a region"
  | openRegion bounds =>
      "outer bounds " ++ Binary64.detailedList bounds ++ " do not close the region"
  | regionFound region => region.text
  | curveSampled samples axis lower upper =>
      toString samples ++ " samples of a curve in terms of " ++ axis.name ++ " over [" ++
        Binary64.text lower ++ ", " ++ Binary64.text upper ++ "]"
  | curvesDrawn curves => toString curves ++ " curves drawn"
  | refused error => error.message
  | logStarted level => "Program started with loglevel: " ++ level.name
  | taskLoaded path rows => "task " ++ path ++ " loaded with " ++ toString rows ++ " rows"
  | canvasSaved path => "canvas saved to " ++ path
  | samplesSaved curves path => toString curves ++ " curves saved to " ++ path
  | taskFinished paths => "task finished, " ++ toString paths ++ " paths drawn"

/-- The line that a log holds for an event, after the time of day. -/
def line (event : Event Float) : String :=
  let origin := if event.level = .debug then "(1) " ++ event.origin ++ ": " else ""
  "[" ++ event.level.name ++ "] " ++ origin ++ event.text

end Event
end PlaneRegion
