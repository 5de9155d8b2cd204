import PlaneRegion.Proofs.Binary64.Operations

/-!
# Square roots of binary64 numbers

The root of a mantissa is cut off with as many bits as a significand has. What is kept of the rest
only says on which side of a half it lies, which is enough to keep every upper bound that fits.
-/

namespace PlaneRegion
namespace Binary64

open Float.Model Float.Model.UnpackedFloat

private theorem wide_sqrt {mantissa shift : Nat} (positive : 0 < mantissa)
    (far : 104 ≤ mantissa.log2 + shift) : hiddenBit ≤ (mantissa <<< shift).sqrt := by
  rw [Nat.le_sqrt, Nat.shiftLeft_eq]
  calc hiddenBit * hiddenBit = 2 ^ 104 := by norm_num [hiddenBit]
    _ ≤ 2 ^ (mantissa.log2 + shift) := Nat.pow_le_pow_right (by decide) far
    _ = 2 ^ mantissa.log2 * 2 ^ shift := Nat.pow_add _ _ _
    _ ≤ mantissa * 2 ^ shift := Nat.mul_le_mul_right _ (Nat.log2_self_le positive.ne')

private def rootAccuracy (radicand : Nat) : Accuracy :=
  if radicand - radicand.sqrt * radicand.sqrt = 0 then .exact
  else .inexact (if radicand - radicand.sqrt * radicand.sqrt ≤ radicand.sqrt then .lt else .gt)

private theorem exists_truncates_sqrt (radicand : Nat) :
    ∃ x : ℚ, Truncates
      (ExtendedMantissa.ofMantissaAndAccuracy radicand.sqrt (rootAccuracy radicand)) x ∧
      ∀ n : Nat, radicand ≤ n * n → x ≤ n := by
  -- The number need not be the exact root: one between the whole root and the next number will do.
  unfold rootAccuracy
  split_ifs with square below
  · refine ⟨radicand.sqrt, ?_, fun n atMost => ?_⟩
    · have whole : Truncates ⟨radicand.sqrt, false, false⟩ (radicand.sqrt + 0) :=
        truncates_mk (by norm_num) (by norm_num) (by norm_num) (by norm_num)
      rwa [add_zero] at whole
    · have root := Nat.sqrt_le_sqrt atMost
      rw [Nat.sqrt_eq] at root
      exact Nat.cast_le.mpr root
  all_goals
    have next (n : Nat) (atMost : radicand ≤ n * n) : (radicand.sqrt : ℚ) + 1 ≤ n := by
      have less : radicand.sqrt < n := by
        by_contra! notLess
        have := Nat.mul_self_le_mul_self notLess
        omega
      exact_mod_cast less
  · refine ⟨radicand.sqrt + 1 / 4, truncates_mk (by norm_num) (by norm_num) (by norm_num)
      (by norm_num), fun n atMost => ?_⟩
    linarith [next n atMost]
  · refine ⟨radicand.sqrt + 3 / 4, truncates_mk (by norm_num) (by norm_num) (by norm_num)
      (by norm_num), fun n atMost => ?_⟩
    linarith [next n atMost]

private theorem le_of_square_le {radicand : Nat} {x : ℚ} {power : Int}
    (wide : hiddenBit ≤ radicand.sqrt) (kept : ∀ n : Nat, radicand ≤ n * n → x ≤ n) {n : Nat}
    {e : Int} (below : n < 2 * hiddenBit)
    (square : (radicand * (2 ^ power) ^ 2 : ℚ) ≤ (n * 2 ^ e) ^ 2) : x * 2 ^ power ≤ n * 2 ^ e := by
  have unit : (0 : ℚ) < 2 ^ power := by positivity
  rcases le_or_gt power e with coarse | fine
  · have whole : (n * 2 ^ e : ℚ) = (n <<< (e - power).toNat : Nat) * 2 ^ power :=
      (shiftLeft_mul_pow n coarse).symm
    rw [whole, mul_pow, mul_le_mul_iff_left₀ (by positivity)] at square
    rw [whole, mul_le_mul_iff_left₀ unit]
    refine kept _ ?_
    rw [← sq]
    exact_mod_cast square
  · -- A bound in finer units is less than the whole root.
    have small : (n * 2 ^ e : ℚ) < radicand.sqrt * 2 ^ power :=
      (mul_pow_lt below (by omega)).trans_le (pow_le_mul_pow wide le_rfl)
    have squares : (radicand.sqrt : ℚ) ^ 2 ≤ radicand := by exact_mod_cast Nat.sqrt_le' radicand
    have less : (n * 2 ^ e : ℚ) ^ 2 < radicand * (2 ^ power) ^ 2 := by
      calc (n * 2 ^ e : ℚ) ^ 2 < (radicand.sqrt * 2 ^ power) ^ 2 :=
            pow_lt_pow_left₀ small (by positivity) two_ne_zero
        _ = (radicand.sqrt : ℚ) ^ 2 * (2 ^ power) ^ 2 := mul_pow _ _ _
        _ ≤ radicand * (2 ^ power) ^ 2 := mul_le_mul_of_nonneg_right squares (by positivity)
    exact absurd square (not_le.mpr less)

private theorem exists_sqrtCore_eq {mantissa : Nat} {exponent : Int} (positive : 0 < mantissa)
    (least : -1074 ≤ exponent) :
    ∃ root power accuracy v, sqrtCore .binary64 mantissa exponent = (root, power, accuracy) ∧
      Approximates root power accuracy v ∧ power ≤ target root power ∧
      ∀ (n : Nat) (e : Int), n < 2 * hiddenBit →
        (mantissa * 2 ^ exponent : ℚ) ≤ (n * 2 ^ e) ^ 2 → v ≤ n * 2 ^ e := by
  -- The mantissa is shifted so far that it counts an even power of two and its root is wide.
  obtain ⟨power, power_eq⟩ : ∃ power, power = min (exponent.ediv 2)
      (Format.binary64.targetExponent ((totalExponent mantissa exponent + 1).ediv 2)) := ⟨_, rfl⟩
  have bounds : 2 * power ≤ exponent ∧ 104 + 2 * power ≤ mantissa.log2 + exponent := by
    rw [targetExponent_binary64, totalExponent] at power_eq
    change power = min (exponent / 2) (max ((mantissa.log2 + 1 + exponent + 1) / 2 - 53) (-1074))
      at power_eq
    omega
  obtain ⟨shift, shift_eq⟩ : ∃ shift : Nat, (shift : Int) = exponent - 2 * power :=
    ⟨(exponent - 2 * power).toNat, by omega⟩
  have same : (mantissa * 2 ^ exponent : ℚ) = (mantissa <<< shift : Nat) * (2 ^ power) ^ 2 := by
    rw [show exponent = shift + (power + power) by omega, zpow_add₀ (by norm_num),
      zpow_add₀ (by norm_num), zpow_natCast, Nat.shiftLeft_eq]
    push_cast
    ring
  have wide : hiddenBit ≤ (mantissa <<< shift).sqrt := wide_sqrt positive (by omega)
  obtain ⟨x, cut, kept⟩ := exists_truncates_sqrt (mantissa <<< shift)
  refine ⟨(mantissa <<< shift).sqrt, power, rootAccuracy (mantissa <<< shift), x * 2 ^ power, ?_,
    ?_, le_target_of_wide wide power, fun n e below square => ?_⟩
  · rw [sqrtCore, ← power_eq, ← shift_eq, Int.toNat_natCast]
    rfl
  · rw [Approximates, mul_div_cancel_right₀ _ (by positivity)]
    exact cut
  · exact le_of_square_le wide kept below (same ▸ square)

private theorem sqrt_finite {m root : Nat} {e power : Int} {accuracy : Accuracy} (positive : 0 < m)
    (core : sqrtCore .binary64 m e = (root, power, accuracy)) :
    UnpackedFloat.sqrt .binary64 (.finite .positive m e positive) =
      roundWithAccuracy .binary64 (signOf false) root power accuracy := by
  rw [UnpackedFloat.sqrt, core]
  rfl

/-- The square root of a number keeps every upper bound that fits. -/
theorem sqrt_le {x : Float} {bound : ℚ} (finite : x.isFinite = true) (nonneg : 0 ≤ rational x)
    (fits : Fits bound) (boundNonneg : 0 ≤ bound) (square : rational x ≤ bound ^ 2) :
    x.sqrt.isFinite = true ∧ 0 ≤ rational x.sqrt ∧ rational x.sqrt ≤ bound := by
  obtain ⟨negative, m, e, decoded⟩ := isFinite_iff.mp finite
  have held := isHeld_of_decode decoded
  rw [rational_eq decoded] at nonneg square
  have opened : x.sqrt = .ofModel (.pack (UnpackedFloat.sqrt .binary64
      (Value.finite negative m e).operand)) := by
    rw [← decoded, ← unpack_eq_operand]
    rfl
  rcases Nat.eq_zero_or_pos m with rfl | positive
  · have rounds : Rounds 0 (decode x.sqrt) := by
      rw [opened]
      exact rounds_zero (signOf negative)
    exact rounds.between fits_zero fits le_rfl boundNonneg
  · obtain rfl : negative = false := by
      cases negative with
      | false => rfl
      | true =>
          have size : (0 : ℚ) < m * 2 ^ e := by positivity
          simp only [Value.rational, if_true] at nonneg
          linarith
    rw [Value.rational, if_neg Bool.false_ne_true, one_mul] at square
    obtain ⟨root, power, accuracy, v, core, known, precise, kept⟩ :=
      exists_sqrtCore_eq positive held.least
    have rounds := rounds_roundWithAccuracy known precise false
    rw [if_neg Bool.false_ne_true, one_mul, ← sqrt_finite positive core] at rounds
    have opened : x.sqrt = .ofModel (.pack (UnpackedFloat.sqrt .binary64
        (.finite .positive m e positive))) := by
      rw [opened, Value.operand, dif_neg positive.ne']
      rfl
    rw [← opened] at rounds
    refine rounds.between fits_zero fits known.nonneg ?_
    obtain ⟨_, n, e', below, _, size⟩ := fits
    rw [abs_of_nonneg boundNonneg] at size
    rw [size] at square ⊢
    exact kept n e' below square

end Binary64
end PlaneRegion
