import PlaneRegion.Binary64.Basic
import PlaneRegion.Decimal.Numeral

/-!
# Binary64 numbers as text

A number is written with the fewest digits that read back as the same number, in one of two forms.
The plain form never has an exponent and shows whole numbers without a point.  The detailed form
shows a point in every number, and an exponent outside the range from `0.0001` to `10 ^ 16`.
-/

namespace PlaneRegion

/-! ## Written forms of a decimal

A decimal is written positionally, with as many zeros as its exponent asks for, or with one digit
before the point and an exponent.
-/

namespace Decimal

/-- The sign in front of a written number. -/
def signText (negative : Bool) : List Char :=
  if negative then ['-'] else []

/-- The digits of a decimal without exponent: zeros fill the places up to the point. -/
def positionalDigits (digits : List Char) (exponent : Int) : List Char :=
  let places := (-exponent).toNat
  if places = 0 then
    digits ++ List.replicate exponent.toNat '0'
  else if places < digits.length then
    digits.take (digits.length - places) ++ '.' :: digits.drop (digits.length - places)
  else
    '0' :: '.' :: List.replicate (places - digits.length) '0' ++ digits

/-- A decimal in positional notation. -/
def positional (d : Decimal) : List Char :=
  signText d.negative ++
    if d.digits = 0 then ['0'] else positionalDigits (Nat.toDigits 10 d.digits) d.exponent

/-- A decimal in positional notation that shows at least one place after the point. -/
def positionalWithPoint (d : Decimal) : List Char :=
  let text := d.positional
  if text.contains '.' then text else text ++ ['.', '0']

/-- A decimal with one digit before the point and an exponent. -/
def withExponent (d : Decimal) : List Char :=
  let digits := Nat.toDigits 10 d.digits
  let fraction := digits.drop 1
  signText d.negative ++ digits.take 1 ++ (if fraction.isEmpty then [] else '.' :: fraction) ++
    'e' :: (toString (d.exponent + (fraction.length : Int))).toList

/-! ## Shortest decimal digits

A binary number `significand * 2 ^ exponent` stands for all reals that round to it.  Its shortest
decimal is taken from the coarsest grid `10 ^ k` that has a point among those reals; of two such
points the nearer is taken, and the upper one if they are equally near.
-/

/-- A closed or open interval around a number, all in units of one ratio of naturals: the reals
between `lower` and `upper` times `unitTop / unitBottom`. -/
structure Interval where
  /-- The number itself. -/
  centre : Nat
  lower : Nat
  upper : Nat
  /-- The ends belong to the interval. -/
  closed : Bool
  /-- Numerator of the unit. -/
  unitTop : Nat
  /-- Denominator of the unit. -/
  unitBottom : Nat

namespace Interval

/-- The interval of the reals that round to `significand * 2 ^ exponent`, in quarters of the last
binary place.  Below a power of two (`atPower`) the spacing of the numbers is halved. -/
def around (significand : Nat) (exponent : Int) (atPower : Bool) : Interval where
  centre := 4 * significand
  lower := 4 * significand - if atPower then 1 else 2
  upper := 4 * significand + 2
  closed := significand % 2 == 0
  unitTop := Nat.pow 2 (exponent - 2).toNat
  unitBottom := Nat.pow 2 (2 - exponent).toNat

/-- A bound on the decimal exponent: the whole interval lies below `10 ^ topExponent`. -/
def topExponent (interval : Interval) : Int :=
  let bits : Int := (interval.upper.log2 : Int) + interval.unitTop.log2 - interval.unitBottom.log2
  (bits + 1) * 30103 / 100000 + 2

/-- The multiple of `10 ^ k` nearest to the centre among those in the interval. -/
def onGrid (interval : Interval) (k : Int) : Option Nat :=
  let top := interval.unitTop * Nat.pow 10 (-k).toNat
  let bottom := interval.unitBottom * Nat.pow 10 k.toNat
  let below := interval.centre * top / bottom
  let above := below + 1
  let belowInside :=
    if interval.closed then interval.lower * top ≤ below * bottom
    else interval.lower * top < below * bottom
  let aboveInside :=
    if interval.closed then above * bottom ≤ interval.upper * top
    else above * bottom < interval.upper * top
  if belowInside then
    if aboveInside ∧ 2 * interval.centre * top ≥ (below + above) * bottom then some above
    else some below
  else if aboveInside then
    some above
  else
    none

end Interval

/-- Search downward from the grid `10 ^ k` through `grids` grids for one with a point in the
interval, and give that point as an unsigned decimal. -/
def coarsest (interval : Interval) : Nat → Int → Decimal
  | 0, k => ⟨false, interval.centre * interval.unitTop * Nat.pow 10 (-k).toNat /
      (interval.unitBottom * Nat.pow 10 k.toNat), k⟩
  | grids + 1, k =>
      match interval.onGrid k with
      | some digits => ⟨false, digits, k⟩
      | none => coarsest interval grids (k - 1)

/-- The decimal with the fewest digits among the reals that round to
`significand * 2 ^ exponent`. -/
def shortest (significand : Nat) (exponent : Int) (atPower : Bool) : Decimal :=
  let interval := Interval.around significand exponent atPower
  coarsest interval 22 interval.topExponent

end Decimal

/-! ## Texts of numbers -/

namespace Binary64

/-- The decimal with the fewest digits that is nearest to a finite number. -/
def shortest (negative : Bool) (significand : Nat) (exponent : Int) : Decimal :=
  if significand = 0 then ⟨negative, 0, 0⟩
  else { Decimal.shortest significand exponent (significand = hiddenBit) with negative }

/-- A number in writing, given how its decimal is laid out. -/
def write (layout : Decimal → List Char) (x : Float) : String :=
  match decode x with
  | .finite negative significand exponent =>
      String.ofList (layout (shortest negative significand exponent))
  | .infinite negative => if negative then "-inf" else "inf"
  | .undefined => "NaN"

/-- The plain form of a number. -/
def text (x : Float) : String := write Decimal.positional x

/-- The detailed form of a number. -/
def detailed (x : Float) : String :=
  let magnitude := x.abs
  if magnitude < 1e16 && (magnitude == 0 || 1e-4 ≤ magnitude) then
    write Decimal.positionalWithPoint x
  else
    write Decimal.withExponent x

end Binary64
end PlaneRegion
