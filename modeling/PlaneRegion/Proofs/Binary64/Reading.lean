import PlaneRegion.Proofs.Binary64.Arithmetic

/-!
# Reading decimals as binary64 numbers

A decimal is read as a product or a quotient of a whole number and a power of ten.  Either way the
result is the number in whose interval the decimal lies.
-/

namespace PlaneRegion
namespace Binary64

open Float.Model Float.Model.UnpackedFloat

/-- A positive number with the leading bit of its significand stands for a rational. -/
def Denotes (x : Float) (v : ℚ) : Prop :=
  ∃ significand exponent, decode x = .finite false significand exponent ∧
    hiddenBit ≤ significand ∧ significand * 2 ^ exponent = v

variable {significand : Nat} {exponent : Int}

theorem contains_self (positive : 0 < significand) (exponent : Int) :
    (roundingInterval significand exponent).Contains (significand * 2 ^ exponent) := by
  have proper : (roundingInterval significand exponent).IsProper :=
    Decimal.Interval.isProper_around positive
  have centre : (significand : ℚ) * 2 ^ exponent =
      (roundingInterval significand exponent).centre *
        (roundingInterval significand exponent).unit := by
    rw [unit_roundingInterval]
    simp only [Decimal.Interval.around]
    push_cast
    ring
  rw [centre]
  constructor
  · exact Decimal.Interval.reaches_of_lt
      (mul_lt_mul_of_pos_right (Nat.cast_lt.mpr proper.lower_lt) proper.unit_pos)
  · exact Decimal.Interval.reaches_of_lt
      (mul_lt_mul_of_pos_right (Nat.cast_lt.mpr proper.lt_upper) proper.unit_pos)

/-- A whole number of at most 53 bits is converted without loss. -/
theorem denotes_toFloat {n : Nat} (positive : 0 < n) (below : n < 2 * hiddenBit) :
    Denotes n.toUInt64.toFloat n := by
  have word : n.toUInt64.toNat = n := Nat.mod_eq_of_lt (below.trans (by decide))
  have width : n.log2 < 53 := (Nat.log2_lt positive.ne').mpr below
  obtain ⟨shift, shift_eq⟩ : ∃ shift, shift + n.log2 = 52 := ⟨52 - n.log2, by omega⟩
  have lower : hiddenBit ≤ n <<< shift := by
    rw [Nat.shiftLeft_eq]
    calc hiddenBit = 2 ^ n.log2 * 2 ^ shift := by
          rw [← Nat.pow_add, Nat.add_comm, shift_eq]
          rfl
      _ ≤ n * 2 ^ shift := Nat.mul_le_mul_right _ (Nat.log2_self_le positive.ne')
  have upper : n <<< shift < 2 * hiddenBit := by
    rw [Nat.shiftLeft_eq]
    calc n * 2 ^ shift < 2 ^ (n.log2 + 1) * 2 ^ shift :=
          Nat.mul_lt_mul_of_pos_right Nat.lt_log2_self (Nat.two_pow_pos _)
      _ = 2 * hiddenBit := by
          rw [← Nat.pow_add, Nat.add_right_comm, Nat.add_comm n.log2, shift_eq]
          rfl
  have held : IsHeld (n <<< shift) (-shift) := ⟨upper, by omega, by omega, Or.inl lower⟩
  have filled : 0 < n <<< shift := lt_of_lt_of_le (by decide) lower
  refine ⟨n <<< shift, -shift, ?_, lower, ?_⟩
  · have opened : n.toUInt64.toFloat =
        .ofModel (.pack (.normalize .binary64 n.toUInt64.toNat 0 .positive)) := rfl
    have sign : compare (n : Int) 0 = .gt := compare_gt_iff_gt.mpr (by omega)
    have target_eq : target n 0 = -shift := by
      rw [target]
      omega
    have rounded := roundWithAccuracy_eq held filled (approximates_exact _ _)
      (le_target_of_wide lower _) (contains_self filled _) .positive
    rw [opened, word]
    refine decode_pack held filled ?_
    simp only [UnpackedFloat.normalize, sign, UnpackedFloat.round, targetExponent_eq,
      decreaseExponent, Int.toNat_natCast, target_eq, zero_sub, neg_neg, rounded]
    rfl
  · rw [Nat.shiftLeft_eq, zpow_neg, zpow_natCast]
    push_cast
    field_simp

/-- The powers of ten that reading multiplies or divides by are exact. -/
theorem denotes_powerOfTen {e : Nat} (exact : e ≤ 22)
    (h : e < Float.exactlyRepresentablePowersOfTen.size) :
    Denotes Float.exactlyRepresentablePowersOfTen[e] (10 ^ e) := by
  have decoded : ∀ e : Fin 23,
      decode Float.exactlyRepresentablePowersOfTen[e] =
        .finite false (10 ^ (e : Nat) * hiddenBit / 2 ^ (10 ^ (e : Nat)).log2)
          ((10 ^ (e : Nat)).log2 - 52) ∧
      hiddenBit ≤ 10 ^ (e : Nat) * hiddenBit / 2 ^ (10 ^ (e : Nat)).log2 ∧
      2 ^ (10 ^ (e : Nat)).log2 ∣ 10 ^ (e : Nat) * hiddenBit := by
    decide
  obtain ⟨value, wide, whole⟩ := decoded ⟨e, by omega⟩
  refine ⟨_, _, value, wide, ?_⟩
  have power : ((2 : ℚ) ^ (10 ^ e).log2) ≠ 0 := by positivity
  rw [Nat.cast_div whole (by push_cast; exact power), zpow_sub₀ (by norm_num), zpow_natCast]
  push_cast
  generalize (2 : ℚ) ^ (10 ^ e).log2 = scale at power
  norm_num [hiddenBit]
  field_simp

theorem Denotes.unpack {x : Float} {v : ℚ} (known : Denotes x v) :
    ∃ mantissa power positive, x.toModel.unpack = .finite .positive mantissa power positive ∧
      hiddenBit ≤ mantissa ∧ mantissa * 2 ^ power = v := by
  obtain ⟨mantissa, power, decoded, wide, value⟩ := known
  have positive : 0 < mantissa := lt_of_lt_of_le (by decide) wide
  refine ⟨mantissa, power, positive, ?_, wide, value⟩
  rw [unpack_eq_operand, decoded, Value.operand, dif_neg positive.ne']
  rfl

section Result

variable {x y : Float} {v w : ℚ}

theorem decode_mul (held : IsHeld significand exponent) (positive : 0 < significand)
    (first : Denotes x v) (second : Denotes y w)
    (inside : (roundingInterval significand exponent).Contains (v * w)) :
    decode (x * y) = .finite false significand exponent := by
  obtain ⟨m₁, e₁, h₁, opened₁, wide₁, rfl⟩ := first.unpack
  obtain ⟨m₂, e₂, h₂, opened₂, wide₂, rfl⟩ := second.unpack
  have wide : hiddenBit ≤ m₁ * m₂ := wide₁.trans (Nat.le_mul_of_pos_right m₁ h₂)
  have product := mul_eq held positive h₁ h₂ wide inside .positive .positive
  rw [← opened₁, ← opened₂] at product
  exact decode_pack held positive product

theorem decode_div (held : IsHeld significand exponent) (positive : 0 < significand)
    (first : Denotes x v) (second : Denotes y w)
    (inside : (roundingInterval significand exponent).Contains (v / w)) :
    decode (x / y) = .finite false significand exponent := by
  obtain ⟨m₁, e₁, h₁, opened₁, wide₁, rfl⟩ := first.unpack
  obtain ⟨m₂, e₂, h₂, opened₂, wide₂, rfl⟩ := second.unpack
  have quotient := div_eq held positive h₁ h₂ inside .positive .positive
  rw [← opened₁, ← opened₂] at quotient
  exact decode_pack held positive quotient

end Result

/-- A product is wide enough if one factor is shifted by the width of a mantissa. -/
theorem wide_shiftLeft_mul {m n : Nat} (h₁ : 0 < m) (h₂ : 0 < n) :
    hiddenBit ≤ m <<< Format.binary64.mantissaBits * n := by
  rw [Nat.shiftLeft_eq]
  calc hiddenBit ≤ 2 ^ Format.binary64.mantissaBits := by decide
    _ ≤ m * 2 ^ Format.binary64.mantissaBits := Nat.le_mul_of_pos_left _ h₁
    _ ≤ _ := Nat.le_mul_of_pos_right _ h₂

/-- A whole number times a power of ten is rounded from its exact value. -/
theorem ofScientific_eq (held : IsHeld significand exponent) (positive : 0 < significand)
    {m : Nat} {e : Int} (some : 0 < m) (small : e ≤ 2048) (large : -(2048 + m.log2) ≤ e)
    (inside : (roundingInterval significand exponent).Contains (m * 10 ^ e)) :
    UnpackedFloat.ofScientific .binary64 m e = .finite .positive significand exponent positive := by
  have notSmall : ¬e > 2 ^ Format.binary64.exponentBits := by
    change ¬e > 2048
    omega
  have notLarge : ¬e < -((2 ^ Format.binary64.exponentBits : Int) + m.log2) := by
    change ¬e < -(2048 + (m.log2 : Int))
    omega
  rw [UnpackedFloat.ofScientific, dif_neg some.ne', if_neg notSmall, if_neg notLarge]
  split_ifs with whole
  · have scaled : ((m <<< Format.binary64.mantissaBits : Nat) : ℚ) *
        2 ^ (-Format.binary64.mantissaBits : Int) * ((10 ^ e.toNat : Nat) * 2 ^ (0 : Int)) =
          m * 10 ^ e := by
      rw [Nat.shiftLeft_eq, zpow_neg, zpow_natCast]
      push_cast
      rw [← zpow_natCast (10 : ℚ), Int.toNat_of_nonneg whole]
      field_simp
    have wide := wide_shiftLeft_mul some (Nat.pow_pos (by decide) : 0 < 10 ^ e.toNat)
    rw [← scaled] at inside
    exact mul_eq held positive _ _ wide inside .positive .positive
  · have scaled : (m : ℚ) * 2 ^ (0 : Int) / ((10 ^ (-e).toNat : Nat) * 2 ^ (0 : Int)) =
        m * 10 ^ e := by
      have powers : ((10 ^ (-e).toNat : Nat) : ℚ) = 10 ^ (-e) := by
        rw [Nat.cast_pow, Nat.cast_ofNat, ← zpow_natCast, Int.toNat_of_nonneg (by omega)]
      rw [powers, zpow_neg, zpow_zero, mul_one, mul_one, div_inv_eq_mul]
    rw [← scaled] at inside
    exact div_eq held positive _ _ inside .positive .positive

/-- Scientific notation is read as the number in whose interval it lies. -/
theorem decode_ofScientific (held : IsHeld significand exponent) (positive : 0 < significand)
    {m : Nat} {e : Int} (some : 0 < m) (small : e ≤ 2048) (large : -(2048 + m.log2) ≤ e)
    (inside : (roundingInterval significand exponent).Contains (m * 10 ^ e)) :
    decode (Float.ofScientific m (decide (e < 0)) e.natAbs) =
      .finite false significand exponent := by
  have signed : (if decide (e < 0) then Int.negOfNat e.natAbs else Int.ofNat e.natAbs) = e := by
    simp only [decide_eq_true_eq, Int.negOfNat_eq, Int.ofNat_eq_natCast]
    split_ifs <;> omega
  by_cases exact : m < 2 ^ 53 ∧ e.natAbs ≤ 22
  · have first := denotes_toFloat some exact.1
    have second := denotes_powerOfTen exact.2 (Nat.lt_succ_of_le exact.2)
    rw [Float.ofScientific, dif_pos exact]
    rcases lt_or_ge e 0 with fraction | whole
    · rw [decide_eq_true fraction, if_pos rfl]
      refine decode_div held positive first second ?_
      rwa [← zpow_natCast, Int.ofNat_natAbs_of_nonpos fraction.le, zpow_neg, div_inv_eq_mul]
    · rw [decide_eq_false (not_lt.mpr whole), if_neg Bool.false_ne_true]
      refine decode_mul held positive first second ?_
      rwa [← zpow_natCast, Int.natAbs_of_nonneg whole]
  · rw [Float.ofScientific, dif_neg exact]
    have rounded := ofScientific_eq held positive some small large inside
    refine decode_pack held positive ?_
    rw [signed]
    exact rounded

/-- All numbers that are rounded to a positive number lie in the range of binary64. -/
theorem range_of_contains (held : IsHeld significand exponent) (positive : 0 < significand) {v : ℚ}
    (inside : (roundingInterval significand exponent).Contains v) :
    2 ^ (-1075 : Int) ≤ v ∧ v < 2 ^ (1024 : Int) := by
  obtain ⟨⟨lower, upper, _⟩, _⟩ := roundsTo_of_contains positive inside
  have power : (0 : ℚ) < 2 ^ exponent := by positivity
  have one_le : (1 : ℚ) ≤ significand := by exact_mod_cast positive
  have width : (significand : ℚ) + 1 ≤ 2 ^ 53 := by exact_mod_cast held.below
  rw [le_div_iff₀ power] at lower
  rw [div_le_iff₀ power] at upper
  constructor
  · calc (2 : ℚ) ^ (-1075 : Int) = 2⁻¹ * 2 ^ (-1074 : Int) := by
          rw [← zpow_neg_one, ← zpow_add₀ (by norm_num)]
          rfl
      _ ≤ 2⁻¹ * 2 ^ exponent :=
          mul_le_mul_of_nonneg_left (zpow_le_zpow_right₀ (by norm_num) held.least) (by norm_num)
      _ ≤ (significand - 1 / 2) * 2 ^ exponent :=
          mul_le_mul_of_nonneg_right (by linarith) power.le
      _ ≤ v := lower
  · calc v ≤ (significand + 1 / 2) * 2 ^ exponent := upper
      _ < 2 ^ 53 * 2 ^ exponent := mul_lt_mul_of_pos_right (by linarith) power
      _ ≤ 2 ^ 53 * 2 ^ (971 : Int) :=
          mul_le_mul_of_nonneg_left (zpow_le_zpow_right₀ (by norm_num) held.greatest) (by norm_num)
      _ = 2 ^ (1024 : Int) := by
          rw [← zpow_natCast, ← zpow_add₀ (by norm_num)]
          rfl

/-- A decimal in the range of binary64 is not so large or small that its power of ten is not
formed. -/
theorem exponent_bounds {m : Nat} {e : Int} (some : 0 < m)
    (lower : (2 : ℚ) ^ (-1075 : Int) ≤ m * 10 ^ e) (upper : m * (10 : ℚ) ^ e < 2 ^ (1024 : Int)) :
    e ≤ 400 ∧ -400 - (m.log2 : Int) ≤ e := by
  have power : (0 : ℚ) < 10 ^ e := by positivity
  have one_le : (1 : ℚ) ≤ m := by exact_mod_cast some
  have base : ((2 : ℚ) ^ (3 : Int)) = 8 := by norm_num
  rcases le_total 0 e with whole | fraction
  · have below : (2 : ℚ) ^ (3 * e) < 2 ^ (1024 : Int) := by
      calc (2 : ℚ) ^ (3 * e) = 8 ^ e := by rw [zpow_mul, base]
        _ ≤ 10 ^ e := zpow_le_zpow_left₀ whole (by norm_num) (by norm_num)
        _ ≤ m * 10 ^ e := le_mul_of_one_le_left power.le one_le
        _ < 2 ^ (1024 : Int) := upper
    have := (zpow_lt_zpow_iff_right₀ (by norm_num)).mp below
    omega
  · have above : (2 : ℚ) ^ (-1075 : Int) < 2 ^ ((m.log2 + 1 : Nat) + 3 * e) := by
      calc (2 : ℚ) ^ (-1075 : Int) ≤ m * 10 ^ e := lower
        _ < (2 ^ (m.log2 + 1) : Nat) * 10 ^ e :=
            mul_lt_mul_of_pos_right (Nat.cast_lt.mpr Nat.lt_log2_self) power
        _ ≤ (2 ^ (m.log2 + 1) : Nat) * 8 ^ e := by
            refine mul_le_mul_of_nonneg_left ?_ (by positivity)
            exact Decimal.zpow_anti (by norm_num) (by norm_num) fraction
        _ = 2 ^ ((m.log2 + 1 : Nat) + 3 * e) := by
            rw [zpow_add₀ (by norm_num), zpow_mul, base, zpow_natCast]
            push_cast
            rfl
    have := (zpow_lt_zpow_iff_right₀ (by norm_num)).mp above
    omega

/-- A decimal is read as the number in whose interval it lies. -/
theorem decode_ofDecimal (held : IsHeld significand exponent) (positive : 0 < significand)
    {d : Decimal} (inside : (roundingInterval significand exponent).Contains d.magnitude) :
    decode (ofDecimal d) = .finite d.negative significand exponent := by
  obtain ⟨lower, upper⟩ := range_of_contains held positive inside
  have some : d.digits ≠ 0 := by
    intro zero
    have start : (0 : ℚ) < d.magnitude := lower.trans_lt' (by positivity)
    rw [Decimal.magnitude, zero, Nat.cast_zero, zero_mul] at start
    exact start.false
  obtain ⟨small, large⟩ := exponent_bounds (Nat.pos_of_ne_zero some) lower upper
  have magnitude := decode_ofScientific held positive (Nat.pos_of_ne_zero some) (by omega)
    (by omega) inside
  have formed : ¬(d.digits = 0 ∨ d.exponent < -400 - (d.digits.log2 : Int)) := by omega
  simp only [ofDecimal, if_neg formed, if_neg (not_lt.mpr small)]
  cases negative : d.negative with
  | true => exact decode_neg positive magnitude
  | false => exact magnitude

end Binary64
end PlaneRegion
