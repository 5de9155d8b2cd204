/-!
# Decimal numerals

A decimal number as a sign, its digits and a power of ten, and the grammar of the texts that
denote one: an optional sign, digits with an optional point, and an optional exponent.  The names
of the two infinities and of the undefined number belong to the grammar as well.
-/

namespace PlaneRegion

/-- The decimal number `± digits * 10 ^ exponent`; a zero keeps its sign. -/
structure Decimal where
  /-- The number carries a minus sign. -/
  negative : Bool
  /-- All digits, read as one integer. -/
  digits : Nat
  /-- Power of ten that scales the digits. -/
  exponent : Int
  deriving DecidableEq, Repr

/-- What a numeral denotes. -/
inductive Numeral where
  | finite (value : Decimal)
  /-- An infinity with the given sign. -/
  | infinite (negative : Bool)
  | undefined
  deriving DecidableEq, Repr

namespace Decimal

/-- A number without fraction. -/
def ofNat (n : Nat) : Decimal := ⟨false, n, 0⟩

/-- The sign in front of a text, `true` for a minus, and what follows it. -/
def splitSign : List Char → Bool × List Char
  | '-' :: rest => (true, rest)
  | '+' :: rest => (false, rest)
  | text => (false, text)

/-- The digits after a decimal point, and what follows them; no point means no digits. -/
def splitFraction : List Char → List Char × List Char
  | '.' :: rest => rest.span Char.isDigit
  | text => ([], text)

/-- The exponent that ends a numeral; the empty text stands for zero. -/
def readExponent : List Char → Option Int
  | [] => some 0
  | marker :: text =>
      let (negative, digits) := splitSign text
      if (marker == 'e' || marker == 'E') && !digits.isEmpty && digits.all Char.isDigit then
        let value : Int := Nat.ofDigitChars 10 digits 0
        some (if negative then -value else value)
      else
        none

/-- The number that an unsigned text denotes: digits, a point with digits, or both, followed by an
optional exponent. -/
def readUnsigned (negative : Bool) (text : List Char) : Option Decimal :=
  let (whole, rest) := text.span Char.isDigit
  let (fraction, rest) := splitFraction rest
  if whole.isEmpty && fraction.isEmpty then
    none
  else
    (readExponent rest).map fun exponent =>
      { negative
        digits := Nat.ofDigitChars 10 (whole ++ fraction) 0
        exponent := exponent - fraction.length }

end Decimal

namespace Numeral

/-- The numeral that a whole text denotes, if it denotes one. -/
def read (text : List Char) : Option Numeral :=
  let (negative, rest) := Decimal.splitSign text
  match Decimal.readUnsigned negative rest with
  | some value => some (finite value)
  | none =>
      let name := String.ofList (rest.map Char.toLower)
      if name == "inf" || name == "infinity" then some (infinite negative)
      else if name == "nan" then some undefined
      else none

end Numeral

/-- The whole number that a text of an optional sign and at least one digit denotes. -/
def readInteger (text : List Char) : Option Int :=
  let (negative, digits) := Decimal.splitSign text
  if !digits.isEmpty && digits.all Char.isDigit then
    let value : Int := Nat.ofDigitChars 10 digits 0
    some (if negative then -value else value)
  else
    none

end PlaneRegion
