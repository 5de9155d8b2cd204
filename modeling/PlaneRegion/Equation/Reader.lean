import PlaneRegion.Brackets
import PlaneRegion.Journal.Event
import PlaneRegion.Text.Character

/-!
# Reading equations

An equation is cut into written terms, and each of these is read for itself.
-/

namespace PlaneRegion

/-! ## Reading terms

A written term is a coefficient and a body.  A missing coefficient is completed to one, or to minus
one after a lone minus sign; the body is then recognised by trying the forms in a fixed order:
nothing, a variable, a power, a call.
-/

namespace Term

/-- The sign that a text begins with, if any, and the rest. -/
def splitSign : List Char → List Char × List Char
  | '-' :: rest => (['-'], rest)
  | '+' :: rest => (['+'], rest)
  | text => ([], text)

/-- The numeral that a text begins with, and the rest: an optional sign, then digits with a point
among or before them, or digits alone.  A point belongs to the numeral only if a digit follows. -/
def splitNumeral (text : List Char) : Option (List Char × List Char) :=
  let (sign, unsigned) := splitSign text
  let (whole, rest) := unsigned.span Text.isDecimalDigit
  let (fraction, after) :=
    match rest with
    | '.' :: tail => tail.span Text.isDecimalDigit
    | _ => ([], rest)
  if !fraction.isEmpty then some (sign ++ whole ++ '.' :: fraction, after)
  else if !whole.isEmpty then some (sign ++ whole, rest)
  else none

/-- Complete a term that begins with no numeral by the coefficient one or minus one. -/
def withCoefficient (term : List Char) : List Char :=
  if (splitNumeral term).isSome then term
  else
    match term with
    | '-' :: body => '-' :: '1' :: body
    | '+' :: body => '1' :: body
    | body => '1' :: body

/-- A text without the multiplication sign it begins with. -/
def dropStar : List Char → List Char
  | '*' :: rest => rest
  | text => text

/-- A text that is a variable, bare or in brackets. -/
def isVariable (text : List Char) : Bool :=
  text == ['x'] || text == ['y'] || text == ['(', 'x', ')'] || text == ['(', 'y', ')']

/-- A text without the pair of brackets around it. -/
def dropBrackets (text : List Char) : List Char :=
  match text with
  | '(' :: rest => if rest.getLast? = some ')' then rest.dropLast else text
  | _ => text

variable {α : Type} [Scalar α]

/-- The value of the numeral that a text begins with, and the rest.  Only ASCII digits have a
value. -/
def splitNumber (text : List Char) : Option (α × List Char) :=
  match splitNumeral text with
  | some (numeral, rest) =>
      match Numeral.read numeral with
      | some (.finite value) => some (Scalar.ofDecimal value, rest)
      | _ => none
  | none => none

/-- The factor of the variable in an argument: a numeral or a minus sign, one if there is neither,
and one in place of zero. -/
def readScale (argument : List Char) : Option α :=
  let (scale, rest) : α × List Char :=
    match splitNumber argument with
    | some (scale, rest) =>
        (if Scalar.equal scale (Scalar.ofNat 0) then Scalar.ofNat 1 else scale, rest)
    | none =>
        match argument with
        | '-' :: rest => (-Scalar.ofNat 1, rest)
        | _ => (Scalar.ofNat 1, argument)
  if isVariable (dropStar rest) then some scale else none

/-- The exponent of a power: a finite number, bare or in brackets. -/
def readDegree (text : List Char) : Option α :=
  match Numeral.read (dropBrackets text) with
  | some (.finite value) =>
      let degree : α := Scalar.ofDecimal value
      if Scalar.isFinite degree then some degree else none
  | _ => none

/-- The form of a body with the given coefficient. -/
def bodyForm (coefficient : α) (body : List Char) : TermForm α :=
  if body.isEmpty then .constant coefficient
  else if isVariable body then .linear coefficient
  else
    match body.span (· != '^') with
    | (base, '^' :: exponent) =>
        match isVariable base, readDegree exponent with
        | true, some degree => .power coefficient degree
        | _, _ => .invalid
    | _ =>
        match Brackets.splitCall body with
        | none => .invalid
        | some (name, argument) =>
            match readScale argument with
            | none => .invalid
            | some scale =>
                if name = "sqrt".toList then .root coefficient scale
                else
                  match NamedFunction.ofName (String.ofList name) with
                  | some function => .named coefficient function scale
                  | none => .invalid

/-- The form of a written term that begins with its coefficient. -/
def form (term : List Char) : TermForm α :=
  if Brackets.balanced term then
    match splitNumber term with
    | some (coefficient, rest) => bodyForm coefficient (dropStar rest)
    | none => .invalid
  else
    .invalid

/-- Read one written term. -/
def read (term : List Char) : Attempt (Event α) EquationError (Term α) := do
  let piece := String.ofList term
  if term = [] ∨ term = ['-'] ∨ term = ['+'] then
    Attempt.record (.emptyTerm piece)
    throw ⟨piece⟩
  let normalized := withCoefficient term
  let recognised : TermForm α := form normalized
  Attempt.record (.termRead piece (String.ofList normalized) recognised)
  match recognised.toTerm? with
  | some result => return result
  | none =>
      Attempt.record (.invalidTerm piece)
      throw ⟨piece⟩

end Term

/-! ## Cutting an equation -/

namespace Equation

/-- After this character, or at the beginning, a minus is the sign of what follows. -/
def signFollows : Option Char → Bool
  | none => true
  | some c => c == '^' || c == '*' || c == '(' || c == '+' || c == '-'

/-- Cut a text at the signs outside brackets, given the depth, counted without bound, and the
character before it: the piece that the text begins with, and the pieces after the cuts. -/
def cut : Int → Option Char → List Char → List Char × List (List Char)
  | _, _, [] => ([], [])
  | depth, previous, c :: rest =>
      let depth := Brackets.depthAfter depth c
      let (piece, pieces) := cut depth (some c) rest
      if c = '+' ∧ depth = 0 then ([], piece :: pieces)
      else if c = '-' ∧ depth = 0 ∧ !signFollows previous then ([], ('-' :: piece) :: pieces)
      else (c :: piece, pieces)

/-- The written terms of an equation, blanks removed.  A leading plus sign makes no empty term. -/
def separate (text : List Char) : List (List Char) :=
  let compact := Text.compact text
  let (piece, pieces) := cut 0 none compact
  if compact.head? = some '+' then pieces else piece :: pieces

variable {α : Type} [Scalar α]

/-- Read an equation, up to its first invalid term. -/
def read (text : String) : Attempt (Event α) EquationError (Equation α) :=
  (separate text.toList).mapM Term.read

end Equation
end PlaneRegion
