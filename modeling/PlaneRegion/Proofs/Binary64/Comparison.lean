import PlaneRegion.Proofs.Binary64.Operations
import PlaneRegion.Proofs.Binary64.Order

/-!
# Comparison of finite numbers

Finite numbers are in the order of the rational numbers that they stand for.
-/

namespace PlaneRegion
namespace Binary64

open Float.Model Float.Model.UnpackedFloat

private theorem lt_of_exponent_lt {s₁ s₂ : Nat} {e₁ e₂ : Int} (first : IsHeld s₁ e₁)
    (second : IsHeld s₂ e₂) (less : e₁ < e₂) :
    magnitude s₁ e₁ < magnitude s₂ e₂ ∧ (s₁ * 2 ^ e₁ : ℚ) < s₂ * 2 ^ e₂ := by
  obtain ⟨below, least, -, -⟩ := first
  have leading : hiddenBit ≤ s₂ := second.leading.resolve_right (by omega)
  constructor
  · simp only [magnitude, hiddenBit] at *
    omega
  · exact (mul_pow_lt below le_rfl).trans_le (pow_le_mul_pow leading (by omega))

private theorem magnitude_le_iff {s₁ s₂ : Nat} {e₁ e₂ : Int} (first : IsHeld s₁ e₁)
    (second : IsHeld s₂ e₂) :
    magnitude s₁ e₁ ≤ magnitude s₂ e₂ ↔ (s₁ * 2 ^ e₁ : ℚ) ≤ s₂ * 2 ^ e₂ := by
  rcases lt_trichotomy e₁ e₂ with less | rfl | greater
  · obtain ⟨bits, value⟩ := lt_of_exponent_lt first second less
    exact iff_of_true bits.le value.le
  · rw [mul_le_mul_iff_left₀ (by positivity), Nat.cast_le, magnitude, magnitude]
    omega
  · obtain ⟨bits, value⟩ := lt_of_exponent_lt second first greater
    exact iff_of_false (not_le.mpr bits) (not_le.mpr value)

private theorem apply_le_apply_iff {m₁ m₂ : Int} {v₁ v₂ : ℚ} (nonneg₁ : 0 ≤ m₁) (nonneg₂ : 0 ≤ m₂)
    (positive₁ : 0 ≤ v₁) (positive₂ : 0 ≤ v₂) (same : m₁ ≤ m₂ ↔ v₁ ≤ v₂)
    (turned : m₂ ≤ m₁ ↔ v₂ ≤ v₁) (zero₁ : m₁ ≤ 0 ↔ v₁ ≤ 0) (zero₂ : m₂ ≤ 0 ↔ v₂ ≤ 0)
    (negative₁ negative₂ : Bool) :
    (signOf negative₁).apply m₁ ≤ (signOf negative₂).apply m₂ ↔
      (if negative₁ then -1 else 1) * v₁ ≤ (if negative₂ then -1 else 1) * v₂ := by
  cases negative₁ <;> cases negative₂ <;>
    simp only [signOf, Sign.apply, if_true, Bool.false_eq_true, if_false, one_mul, neg_one_mul]
  · exact same
  · -- A number that is not negative is at most one that is not positive if both are zero.
    constructor
    · intro ordered
      have first := zero₁.mp (by omega)
      have second := zero₂.mp (by omega)
      linarith
    · intro ordered
      have first := zero₁.mpr (by linarith)
      have second := zero₂.mpr (by linarith)
      omega
  · exact iff_of_true (by omega) (by linarith)
  · rw [neg_le_neg_iff, neg_le_neg_iff]
    exact turned

private theorem ordinal_of_decode {x : Float} {negative : Bool} {significand : Nat} {exponent : Int}
    (decoded : decode x = .finite negative significand exponent) :
    ordinal x = (signOf negative).apply (magnitude significand exponent) := by
  rw [ordinal, unpack_eq_operand, decoded, steps_finite (isHeld_of_decode decoded)]

/-- Finite numbers are in the order of the rational numbers that they stand for. -/
theorem le_iff_rational {x y : Float} (finiteX : x.isFinite = true) (finiteY : y.isFinite = true) :
    x ≤ y ↔ rational x ≤ rational y := by
  obtain ⟨negative₁, s₁, e₁, first⟩ := isFinite_iff.mp finiteX
  obtain ⟨negative₂, s₂, e₂, second⟩ := isFinite_iff.mp finiteY
  have held₁ := isHeld_of_decode first
  have held₂ := isHeld_of_decode second
  have heldZero : IsHeld 0 (-1074) := ⟨by decide, by decide, by decide, Or.inr rfl⟩
  have bits : magnitude 0 (-1074) = 0 := rfl
  have value : ((0 : Nat) * 2 ^ (-1074 : Int) : ℚ) = 0 := by rw [Nat.cast_zero, zero_mul]
  have nonneg {s : Nat} {e : Int} (held : IsHeld s e) :
      0 ≤ magnitude s e ∧ (magnitude s e ≤ 0 ↔ (s * 2 ^ e : ℚ) ≤ 0) := by
    rw [← bits, ← value]
    refine ⟨(magnitude_le_iff heldZero held).mpr ?_, magnitude_le_iff held heldZero⟩
    rw [value]
    positivity
  rw [le_iff (isNaN_of_isFinite finiteX) (isNaN_of_isFinite finiteY), ordinal_of_decode first,
    ordinal_of_decode second, rational_eq first, rational_eq second]
  exact apply_le_apply_iff (nonneg held₁).1 (nonneg held₂).1 (by positivity) (by positivity)
    (magnitude_le_iff held₁ held₂) (magnitude_le_iff held₂ held₁) (nonneg held₁).2 (nonneg held₂).2
    negative₁ negative₂

theorem lt_iff_rational {x y : Float} (finiteX : x.isFinite = true) (finiteY : y.isFinite = true) :
    x < y ↔ rational x < rational y := by
  rw [← not_le, ← le_iff_rational finiteY finiteX, not_le_iff, isNaN_of_isFinite finiteX,
    isNaN_of_isFinite finiteY]
  simp

theorem beq_iff_rational {x y : Float} (finiteX : x.isFinite = true)
    (finiteY : y.isFinite = true) : (x == y) = true ↔ rational x = rational y := by
  have definedX := isNaN_of_isFinite finiteX
  have definedY := isNaN_of_isFinite finiteY
  rw [beq_iff definedX definedY, le_antisymm_iff, le_antisymm_iff, ← le_iff definedX definedY,
    ← le_iff definedY definedX, le_iff_rational finiteX finiteY, le_iff_rational finiteY finiteX]

theorem rational_abs {x : Float} (finite : x.isFinite = true) :
    x.abs.isFinite = true ∧ rational x.abs = |rational x| := by
  obtain ⟨negative, significand, exponent, decoded⟩ := isFinite_iff.mp finite
  have opened : x.abs = .ofModel (.pack (Value.finite false significand exponent).operand) := by
    have positive : x.toModel.unpack.abs = (Value.finite false significand exponent).operand := by
      rw [unpack_eq_operand, decoded]
      by_cases zero : significand = 0 <;>
        simp only [Value.operand, zero, dite_true, dite_false] <;> rfl
    rw [← positive]
    rfl
  have held := isHeld_of_decode decoded
  have value : decode x.abs = .finite false significand exponent := by
    rw [opened, decode_pack_operand false held.isRounded, if_pos held.greatest]
  have nonneg : (0 : ℚ) ≤ significand * 2 ^ exponent := by positivity
  refine ⟨isFinite_iff.mpr ⟨_, _, _, value⟩, ?_⟩
  rw [rational_eq value, rational_eq decoded]
  cases negative <;> simp [Value.rational, abs_of_nonneg nonneg]

/-- The greater of two finite numbers is one of them, and neither is greater. -/
theorem rational_max {x y : Float} (finiteX : x.isFinite = true) (finiteY : y.isFinite = true) :
    (max x y).isFinite = true ∧ rational (max x y) = max (rational x) (rational y) := by
  have opened : max x y = if x ≤ y then y else x := rfl
  rw [opened]
  split_ifs with ordered
  · rw [le_iff_rational finiteX finiteY] at ordered
    exact ⟨finiteY, (max_eq_right ordered).symm⟩
  · rw [le_iff_rational finiteX finiteY, not_le] at ordered
    exact ⟨finiteX, (max_eq_left ordered.le).symm⟩

end Binary64
end PlaneRegion
