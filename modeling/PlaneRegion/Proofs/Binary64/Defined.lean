import PlaneRegion.Proofs.Binary64.Operations
import PlaneRegion.Proofs.Binary64.Reading

/-!
# Decimals are never undefined

What a decimal is read as is rounded from an exact value, or too large or too small for it: a finite
number or an infinity, but never the undefined number.
-/

namespace PlaneRegion
namespace Binary64

open Float.Model Float.Model.UnpackedFloat

theorem Rounds.ne_undefined {exact : ℚ} {value : Value} (rounds : Rounds exact value) :
    value ≠ .undefined := by
  rintro rfl
  rcases le_total 0 exact with nonneg | nonpos
  · exact rounds.lower 0 fits_zero nonneg
  · exact rounds.upper 0 fits_zero nonpos

private theorem neg_eq_pack (x : Float) :
    -x = .ofModel (.pack (decode x).operand.neg) := by
  rw [← unpack_eq_operand]
  rfl

/-- The opposite of a defined number is defined. -/
theorem decode_neg_ne_undefined {x : Float} (defined : decode x ≠ .undefined) :
    decode (-x) ≠ .undefined := by
  rw [neg_eq_pack]
  cases decoded : decode x with
  | finite negative significand exponent =>
      have held := isHeld_of_decode decoded
      have opposite : (Value.finite negative significand exponent).operand.neg =
          (Value.finite (!negative) significand exponent).operand := by
        rw [Value.operand, Value.operand]
        split_ifs <;> cases negative <;> rfl
      rw [opposite, decode_pack_operand _ held.isRounded, if_pos held.greatest]
      exact Value.noConfusion
  | infinite negative => cases negative <;> decide
  | undefined => exact absurd decoded defined

private theorem decode_ofScientific_ne_undefined {m : Nat} (positive : 0 < m) (e : Int) :
    decode (.ofModel (.pack (UnpackedFloat.ofScientific .binary64 m e))) ≠ .undefined := by
  rw [UnpackedFloat.ofScientific, dif_neg positive.ne']
  split_ifs with large small whole
  · decide
  · exact (rounds_zero .positive).ne_undefined
  · have wide := wide_shiftLeft_mul positive (Nat.pow_pos (by decide) : 0 < 10 ^ e.toNat)
    exact (rounds_roundWithAccuracy (approximates_exact _ _) (le_target_of_wide wide _)
      false).ne_undefined
  · obtain ⟨mantissa, power, accuracy, core, known, precise⟩ :=
      approximates_divCore positive (Nat.pow_pos (by decide) : 0 < 10 ^ (-e).toNat) 0 0
    simp only [UnpackedFloat.div, core]
    exact (rounds_roundWithAccuracy known precise false).ne_undefined

private theorem Denotes.isFinite {x : Float} {v : ℚ} (known : Denotes x v) :
    x.isFinite = true := by
  obtain ⟨significand, exponent, decoded, _⟩ := known
  exact isFinite_iff.mpr ⟨_, _, _, decoded⟩

private theorem Denotes.rational_ne_zero {x : Float} {v : ℚ} (known : Denotes x v) :
    rational x ≠ 0 := by
  obtain ⟨significand, exponent, decoded, wide, _⟩ := known
  have positive : 0 < significand := lt_of_lt_of_le (by decide) wide
  rw [rational_eq decoded, Value.rational, if_neg Bool.false_ne_true, one_mul]
  positivity

/-- A positive number in scientific notation is never read as undefined. -/
theorem ofScientific_ne_undefined {m : Nat} (positive : 0 < m) (negative : Bool) (e : Nat) :
    decode (Float.ofScientific m negative e) ≠ .undefined := by
  rw [Float.ofScientific]
  split
  · rename_i exact
    have first := (denotes_toFloat positive exact.1).isFinite
    have second := denotes_powerOfTen exact.2 (Nat.lt_succ_of_le exact.2)
    cases negative with
    | true => exact (rounds_div first second.isFinite second.rational_ne_zero).ne_undefined
    | false => exact (rounds_mul first second.isFinite).ne_undefined
  · exact decode_ofScientific_ne_undefined positive _

/-- A decimal is read as a number, which may be infinite. -/
theorem isNaN_ofDecimal (d : Decimal) : (ofDecimal d).isNaN = false := by
  have defined (magnitude : Float) (known : decode magnitude ≠ .undefined) :
      (if d.negative then -magnitude else magnitude).isNaN = false := by
    rw [Bool.eq_false_iff, ne_eq, isNaN_iff]
    split_ifs
    · exact decode_neg_ne_undefined known
    · exact known
  refine defined _ ?_
  split_ifs with vanishes large
  · decide
  · decide
  · exact ofScientific_ne_undefined (by omega) _ _

end Binary64
end PlaneRegion
