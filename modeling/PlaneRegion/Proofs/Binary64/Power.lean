import PlaneRegion.Proofs.Binary64.Order

/-!
# Infinite powers of binary64 numbers

The power infinity of a number is the limit of its powers: zero inside the interval from minus one
to one, infinite outside. For one and minus one it is one.
-/

namespace PlaneRegion
namespace Binary64

/-- One is among the bases whose infinite power is one. -/
theorem power_infinity_eq (base : Float) : power base (1 / 0) = infinitePower base false := by
  have nonzero : ((1 / 0 : Float) == 0) = false := by decide
  have notOne : ((1 / 0 : Float) == 1) = false := by decide
  have infinite : (1 / 0 : Float).isInf = true := by decide
  have positive : decide ((1 / 0 : Float) < 0) = false := by decide
  rw [power, nonzero, notOne, infinite, positive, Bool.false_or]
  by_cases one : (base == 1) = true
  · have defined : ¬ base.isNaN = true := fun undefined =>
      not_beq_of_undefined (Or.inl undefined) one
    rw [if_pos one, infinitePower, if_neg defined, one]
    rfl
  · rw [if_neg one]
    rfl

/-- The power infinity is zero strictly between minus one and one, one for these two numbers, and
beyond them infinite. -/
theorem power_infinity (base : Float) :
    power base (1 / 0) =
      if base.isNaN = true then base
      else if -1 < base ∧ base < 1 then 0
      else if -1 ≤ base ∧ base ≤ 1 then 1
      else 1 / 0 := by
  rw [power_infinity_eq, infinitePower]
  cases undefined : base.isNaN with
  | true => rfl
  | false =>
      have one : (1 : Float).isNaN = false := by decide
      have minusOne : (-1 : Float).isNaN = false := by decide
      have ordered : ordinal (-1) < ordinal 1 := (lt_iff minusOne one).mp (by decide)
      simp only [Bool.false_eq_true, if_false, Bool.or_eq_true, beq_false, Bool.not_eq_true',
        Bool.and_eq_false_iff, decide_eq_false_iff_not, beq_iff undefined one,
        beq_iff undefined minusOne, lt_iff minusOne undefined, lt_iff undefined one,
        le_iff minusOne undefined, le_iff undefined one]
      by_cases inside : ordinal (-1) < ordinal base ∧ ordinal base < ordinal 1
      · rw [if_neg (by omega), if_neg (by omega), if_pos inside]
      · rw [if_neg inside]
        by_cases unit : ordinal base = ordinal 1 ∨ ordinal base = ordinal (-1)
        · rw [if_pos unit, if_pos (by omega)]
        · rw [if_neg unit, if_pos (by omega), if_neg (by omega)]

/-- The power infinity is finite from minus one to one. -/
theorem isFinite_power_infinity_iff (base : Float) :
    (power base (1 / 0)).isFinite = true ↔ -1 ≤ base ∧ base ≤ 1 := by
  rw [power_infinity]
  split_ifs with undefined inside between
  · simp [isFinite_eq_false_iff.mpr (Or.inl undefined), not_le_of_undefined (Or.inl undefined)]
  · exact iff_of_true (by decide) ⟨Binary64.le_of_lt inside.1, Binary64.le_of_lt inside.2⟩
  · exact iff_of_true (by decide) between
  · exact iff_of_false (by decide) between

/-- Between minus one and one the power infinity is zero, and one in these two numbers. -/
theorem power_infinity_of_le {base : Float} (between : -1 ≤ base ∧ base ≤ 1) :
    power base (1 / 0) = if -1 < base ∧ base < 1 then 0 else 1 := by
  obtain ⟨-, defined⟩ := defined_of_le between.1
  rw [power_infinity, defined, if_neg Bool.false_ne_true, if_pos between]

end Binary64
end PlaneRegion
