import PlaneRegion.Binary64.Text
import PlaneRegion.Proofs.Binary64.Reading
import PlaneRegion.Proofs.Decimal.Positional

/-!
# Numbers that are written and read again

The plain form of a finite number is a numeral, and the numeral is read as the same number.
-/

namespace PlaneRegion
namespace Binary64

open Term (NumeralText)

theorem ofDecimal_zero (negative : Bool) (exponent : Int) :
    decode (ofDecimal ⟨negative, 0, exponent⟩) = .finite negative 0 (-1074) := by
  have formed : ofDecimal ⟨negative, 0, exponent⟩ = if negative then -0 else 0 := by
    simp only [ofDecimal, true_or, if_true]
  rw [formed]
  cases negative <;> decide

/-- A decimal with the value of the shortest one of a number is read as this number. -/
theorem ofDecimal_shortest {x : Float} {negative : Bool} {significand : Nat} {exponent : Int}
    (decoded : decode x = .finite negative significand exponent) {value : Decimal}
    (same : value.SameValue (shortest negative significand exponent)) : ofDecimal value = x := by
  have held := isHeld_of_decode decoded
  obtain ⟨sign, magnitude⟩ := same
  apply decode_injective
  rw [decoded]
  by_cases zero : significand = 0
  · subst zero
    obtain rfl : exponent = -1074 := held.leading.resolve_left (by decide)
    obtain ⟨minus, digits, power⟩ := value
    rw [shortest, if_pos rfl] at sign magnitude
    have none : digits = 0 := by
      rw [Decimal.magnitude, Decimal.magnitude, Nat.cast_zero, zero_mul, mul_eq_zero] at magnitude
      exact_mod_cast magnitude.resolve_right (zpow_ne_zero power (by norm_num))
    rw [none, ofDecimal_zero, show minus = negative from sign]
  · have positive := Nat.pos_of_ne_zero zero
    rw [shortest, if_neg zero] at sign magnitude
    have inside : (roundingInterval significand exponent).Contains value.magnitude := by
      rw [magnitude]
      exact Decimal.contains_shortest positive held.below held.least held.greatest
    rw [decode_ofDecimal held positive inside, sign]

/-- The plain form of a finite number is a numeral of this number. -/
theorem exists_numeralText_text {x : Float} (finite : x.isFinite = true) :
    ∃ value, NumeralText Char.isDigit (text x).toList value ∧ ofDecimal value = x := by
  obtain ⟨negative, significand, exponent, decoded⟩ := isFinite_iff.mp finite
  obtain ⟨value, written, same⟩ :=
    Decimal.exists_numeralText_positional (shortest negative significand exponent)
  refine ⟨value, ?_, ofDecimal_shortest decoded same⟩
  simpa only [text, write, decoded, String.toList_ofList] using written

theorem read_text_of_infinite {x : Float} {negative : Bool}
    (decoded : decode x = .infinite negative) :
    Numeral.read (text x).toList = some (.infinite negative) := by
  rw [text, write, decoded]
  cases negative <;> decide

theorem read_text_of_undefined {x : Float} (decoded : decode x = .undefined) :
    Numeral.read (text x).toList = some .undefined := by
  rw [text, write, decoded]
  decide

/-- The plain form of a number is read as this number, be it finite or not. -/
theorem exists_read_text (x : Float) :
    ∃ numeral, Numeral.read (text x).toList = some numeral ∧ ofNumeral numeral = x := by
  cases decoded : decode x with
  | finite negative significand exponent =>
      obtain ⟨value, written, same⟩ :=
        exists_numeralText_text (isFinite_iff.mpr ⟨negative, significand, exponent, decoded⟩)
      exact ⟨.finite value, Term.read_of_numeralText written, same⟩
  | infinite negative =>
      refine ⟨_, read_text_of_infinite decoded, decode_injective (Eq.trans ?_ decoded.symm)⟩
      cases negative <;> decide
  | undefined =>
      refine ⟨_, read_text_of_undefined decoded, decode_injective (Eq.trans ?_ decoded.symm)⟩
      decide

/-- The plain form of a finite number is a minus sign, which may be missing, and digits with a point
or without one. -/
theorem exists_unsigned_text {x : Float} (finite : x.isFinite = true) :
    ∃ negative unsigned, (text x).toList = Decimal.signText negative ++ unsigned ∧
      ∀ c ∈ unsigned, c.isDigit = true ∨ c = '.' := by
  obtain ⟨negative, significand, exponent, decoded⟩ := isFinite_iff.mp finite
  obtain ⟨unsigned, layout, plain⟩ :=
    Decimal.exists_unsigned_positional (shortest negative significand exponent)
  refine ⟨(shortest negative significand exponent).negative, unsigned, ?_, plain⟩
  simpa only [text, write, decoded, String.toList_ofList] using layout

end Binary64
end PlaneRegion
