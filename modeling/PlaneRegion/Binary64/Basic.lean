import PlaneRegion.Decimal.Numeral

/-!
# Binary64 numbers

The value of a binary64 number as a sign, a significand and a power of two, and the conversions
that this view makes exact: rounding to integers, the nearest number to a decimal, and the total
order of all numbers.
-/

namespace PlaneRegion
namespace Binary64

/-- What a binary64 number stands for. -/
inductive Value where
  /-- The number `± significand * 2 ^ exponent`. -/
  | finite (negative : Bool) (significand : Nat) (exponent : Int)
  | infinite (negative : Bool)
  | undefined
  deriving DecidableEq, Repr

/-- The weight of the sign, the highest bit of a number. -/
def signBit : Nat := 0x8000000000000000

/-- The weight of the leading bit of a significand, which no field of a number holds. -/
def hiddenBit : Nat := 0x10000000000000

/-- Read the sign, exponent and fraction fields of a number. -/
def decode (x : Float) : Value :=
  let bits := x.toBits.toNat
  let negative := decide (signBit ≤ bits)
  let field : Nat := bits / hiddenBit % 2048
  let fraction : Nat := bits % hiddenBit
  if field = 2047 then
    if fraction = 0 then .infinite negative else .undefined
  else if field = 0 then
    .finite negative fraction (-1074)
  else
    .finite negative (hiddenBit + fraction) ((field : Int) - 1075)

/-- The number nearest to an integer. -/
def ofInt (n : Int) : Float := Float.ofInt n

/-- The number nearest to a decimal.  A decimal far outside the range of binary64 gives an infinity
or a zero without its power of ten being formed. -/
def ofDecimal (d : Decimal) : Float :=
  let magnitude :=
    if d.digits = 0 ∨ d.exponent < -400 - (d.digits.log2 : Int) then 0
    else if 400 < d.exponent then 1 / 0
    else Float.ofScientific d.digits (decide (d.exponent < 0)) d.exponent.natAbs
  if d.negative then -magnitude else magnitude

/-- The number that a numeral denotes. -/
def ofNumeral : Numeral → Float
  | .finite d => ofDecimal d
  | .infinite negative => if negative then -(1 / 0) else 1 / 0
  | .undefined => 0 / 0

/-- An integer with the given sign. -/
def signed (negative : Bool) (magnitude : Nat) : Int :=
  if negative then -(magnitude : Int) else magnitude

/-- The nearest integer that a word of `bits` bits in two's complement can hold. -/
def clamp (bits : Nat) (n : Int) : Int :=
  let half : Int := Nat.pow 2 (bits - 1)
  max (-half) (min (half - 1) n)

/-- Round a value to an integer within a word of `bits` bits, by a rule for signed ratios.  The
undefined number becomes zero. -/
def roundWith (rule : Int → Nat → Int) (bits : Nat) (x : Float) : Int :=
  match decode x with
  | .finite negative significand exponent =>
      clamp bits
        (if 0 ≤ exponent then signed negative (significand * Nat.pow 2 exponent.toNat)
        else rule (signed negative significand) (Nat.pow 2 (-exponent).toNat))
  | .infinite negative => clamp bits (signed negative (Nat.pow 2 bits))
  | .undefined => 0

/-- The greatest integer not above a ratio. -/
def floorRatio (top : Int) (bottom : Nat) : Int :=
  top / (bottom : Int)

/-- The least integer not below a ratio. -/
def ceilRatio (top : Int) (bottom : Nat) : Int :=
  -(-top / (bottom : Int))

/-- The integer nearest to a ratio; a half goes away from zero. -/
def nearestRatio (top : Int) (bottom : Nat) : Int :=
  top.sign * ((2 * top.natAbs + bottom) / (2 * bottom) : Nat)

/-- The greatest 64-bit integer not above a number. -/
def floorInt (x : Float) : Int := roundWith floorRatio 64 x

/-- The least 64-bit integer not below a number. -/
def ceilInt (x : Float) : Int := roundWith ceilRatio 64 x

/-- The 32-bit integer nearest to a number; a half goes away from zero. -/
def nearestInt32 (x : Float) : Int := roundWith nearestRatio 32 x

/-- Round a number to an integer, as a number.  Large numbers are integers already, and a zero
keeps the sign of the argument. -/
def integral (rule : Int → Nat → Int) (x : Float) : Float :=
  match decode x with
  | .finite negative significand exponent =>
      if 0 ≤ exponent then x
      else
        let n := rule (signed negative significand) (Nat.pow 2 (-exponent).toNat)
        if n = 0 ∧ negative then -0 else ofInt n
  | _ => x

/-- The greatest integer not above a number. -/
def floor (x : Float) : Float := integral floorRatio x

/-- The least integer not below a number. -/
def ceil (x : Float) : Float := integral ceilRatio x

/-- Position in the total order of all numbers: the undefined number, then all others from the
negative to the positive infinity, with `-0` directly before `0`. -/
def rank (x : Float) : Int :=
  match decode x with
  | .undefined => -(2 * signBit : Nat)
  | _ =>
      let magnitude : Int := (x.toBits.toNat % signBit : Nat)
      if signBit ≤ x.toBits.toNat then -magnitude - 1 else magnitude

/-- The base to the power of an infinity with the given sign: the limit of its powers, zero or
infinity, and one for the bases one and minus one. -/
def infinitePower (base : Float) (negative : Bool) : Float :=
  if base.isNaN then base
  else if base == 1 || base == -1 then 1
  else if (-1 < base && base < 1) == negative then 1 / 0
  else 0

/-- The base to a power.  Where the result is known without rounding, it is that result: every
number to the power zero and one to every power are one, the first power is the base, and an
infinite power is a limit. -/
def power (base exponent : Float) : Float :=
  if exponent == 0 || base == 1 then 1
  else if exponent == 1 then base
  else if exponent.isInf then infinitePower base (exponent < 0)
  else base.pow exponent

/-- The scale of long legs, `2 ^ 600`. -/
def longUnit : Float := Float.ofBits 0x6570000000000000

/-- Legs longer than `2 ^ 500` are long. -/
def longLimit : Float := Float.ofBits 0x5F30000000000000

/-- Legs shorter than `2 ^ (-460)` are short. -/
def shortLimit : Float := Float.ofBits 0x2330000000000000

/-- The scale in which legs are squared, given the longer one. -/
def legUnit (longest : Float) : Float :=
  if longest > longLimit then longUnit
  else if longest < shortLimit then 1 / longUnit
  else 1

/-- The length of the hypotenuse over two legs.  Long and short legs are brought to a middle scale
before they are squared, so no square overflows or vanishes; an infinite leg makes an infinite
hypotenuse whatever the other is. -/
def hypot (x y : Float) : Float :=
  if x.isInf || y.isInf then 1 / 0
  else
    let unit := legUnit (max x.abs y.abs)
    unit * ((x / unit) * (x / unit) + (y / unit) * (y / unit)).sqrt

end Binary64
end PlaneRegion
