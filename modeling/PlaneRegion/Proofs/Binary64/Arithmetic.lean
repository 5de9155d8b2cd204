import PlaneRegion.Proofs.Binary64.Rounding

/-!
# Products and quotients of binary64 numbers

The product of two operands is rounded from the exact product, and their quotient from a quotient of
whole numbers that has enough bits, so both are the number in whose interval the exact result lies.
-/

namespace PlaneRegion
namespace Binary64

open Float.Model Float.Model.UnpackedFloat

variable {significand : Nat} {exponent : Int}

/-- A mantissa as wide as a significand has bits enough. -/
theorem le_target_of_wide {mantissa : Nat} (wide : hiddenBit ≤ mantissa) (power : Int) :
    power ≤ target mantissa power := by
  have width : 52 ≤ mantissa.log2 := by
    refine (Nat.le_log2 ?_).mpr wide
    rintro rfl
    exact absurd wide (by decide)
  rw [target]
  omega

theorem approximates_exact (mantissa : Nat) (power : Int) :
    Approximates mantissa power .exact (mantissa * 2 ^ power) := by
  have value : (mantissa : ℚ) * 2 ^ power / 2 ^ power = mantissa :=
    mul_div_cancel_right₀ _ (by positivity)
  rw [Approximates, value]
  constructor <;> simp [ExtendedMantissa.ofMantissaAndAccuracy]

theorem truncates_mk {mantissa : Nat} {roundBit stickyBit : Bool} {f : ℚ} (nonneg : 0 ≤ f)
    (below : f < 1) (half : roundBit = true ↔ 1 / 2 ≤ f)
    (exact : stickyBit = false ↔ f = 0 ∨ f = 1 / 2) :
    Truncates ⟨mantissa, roundBit, stickyBit⟩ (mantissa + f) where
  lower := by simpa using nonneg
  upper := by simpa using below
  half := by simpa using half
  exact := by simpa using exact

/-- A quotient of whole numbers is cut off at the division without remainder. -/
theorem truncates_quotient (top : Nat) {bottom : Nat} (positive : 0 < bottom) :
    Truncates (ExtendedMantissa.ofMantissaAndAccuracy (top / bottom)
      (accuracyOfFraction (top % bottom) bottom)) (top / bottom) := by
  have size : (0 : ℚ) < bottom := Nat.cast_pos.mpr positive
  have split : (top : ℚ) / bottom = (top / bottom : Nat) + (top % bottom : Nat) / bottom := by
    field_simp
    exact_mod_cast (Nat.div_add_mod' top bottom).symm.trans (by ring)
  have rest : top % bottom < bottom := Nat.mod_lt _ positive
  rw [split]
  generalize top / bottom = mantissa
  generalize top % bottom = remainder at rest
  have nonneg : (0 : ℚ) ≤ remainder / bottom := by positivity
  have below : (remainder : ℚ) / bottom < 1 := (div_lt_one size).mpr (Nat.cast_lt.mpr rest)
  have half : (1 / 2 : ℚ) ≤ remainder / bottom ↔ bottom ≤ 2 * remainder := by
    rw [div_le_div_iff₀ (by norm_num) size, one_mul, mul_comm]
    norm_cast
  have middle : (remainder : ℚ) / bottom = 1 / 2 ↔ 2 * remainder = bottom := by
    rw [div_eq_div_iff size.ne' (by norm_num), one_mul, mul_comm]
    norm_cast
  have zero : (remainder : ℚ) / bottom = 0 ↔ remainder = 0 := by
    rw [div_eq_zero_iff, Nat.cast_eq_zero, or_iff_left size.ne']
  generalize (remainder : ℚ) / bottom = f at nonneg below half middle zero
  rw [accuracyOfFraction]
  split_ifs with whole
  · have zero' := zero.mpr whole
    exact truncates_mk nonneg below (by simp [zero']) (by simp [zero'])
  have some : f ≠ 0 := mt zero.mp whole
  rcases lt_trichotomy (2 * remainder) bottom with less | same | more
  · rw [Nat.compare_eq_lt.mpr less]
    refine truncates_mk nonneg below ?_ ?_
    · rw [half]
      simp [less]
    · rw [middle]
      simp [some, less.ne]
  · rw [Nat.compare_eq_eq.mpr same]
    refine truncates_mk nonneg below ?_ ?_
    · rw [half]
      simp [same]
    · rw [middle]
      simp [same]
  · rw [Nat.compare_eq_gt.mpr more]
    refine truncates_mk nonneg below ?_ ?_
    · rw [half]
      simp [more.le]
    · rw [middle]
      simp [some, more.ne']

/-- The product of two operands is the number in whose interval the exact product lies. -/
theorem mul_eq (held : IsHeld significand exponent) (positive : 0 < significand)
    {m₁ m₂ : Nat} {e₁ e₂ : Int} (h₁ : 0 < m₁) (h₂ : 0 < m₂) (wide : hiddenBit ≤ m₁ * m₂)
    (inside : (roundingInterval significand exponent).Contains (m₁ * 2 ^ e₁ * (m₂ * 2 ^ e₂)))
    (s₁ s₂ : Sign) :
    UnpackedFloat.mul .binary64 (.finite s₁ m₁ e₁ h₁) (.finite s₂ m₂ e₂ h₂) =
      .finite (s₁ * s₂) significand exponent positive := by
  have product : (m₁ : ℚ) * 2 ^ e₁ * (m₂ * 2 ^ e₂) = (m₁ * m₂ : Nat) * 2 ^ (e₁ + e₂) := by
    rw [zpow_add₀ (by norm_num)]
    push_cast
    ring
  rw [product] at inside
  exact roundWithAccuracy_eq held positive (approximates_exact _ _) (le_target_of_wide wide _)
    inside _

/-- A quotient is at least as wide as a significand if its top is shifted 53 places beyond the width
of its bottom. -/
theorem wide_quotient {m₁ m₂ shift : Nat} (h₁ : 0 < m₁) (h₂ : 0 < m₂)
    (far : m₂.log2 + 53 ≤ m₁.log2 + shift) : hiddenBit ≤ (m₁ <<< shift) / m₂ := by
  rw [Nat.le_div_iff_mul_le h₂, Nat.shiftLeft_eq]
  calc hiddenBit * m₂ ≤ 2 ^ 52 * 2 ^ (m₂.log2 + 1) :=
        Nat.mul_le_mul_left hiddenBit Nat.lt_log2_self.le
    _ = 2 ^ (m₂.log2 + 53) := by
        rw [← Nat.pow_add]
        congr 1
        omega
    _ ≤ 2 ^ (m₁.log2 + shift) := Nat.pow_le_pow_right (by decide) far
    _ = 2 ^ m₁.log2 * 2 ^ shift := Nat.pow_add _ _ _
    _ ≤ m₁ * 2 ^ shift := Nat.mul_le_mul_right _ (Nat.log2_self_le h₁.ne')

/-- The quotient of two operands is cut off with enough bits. -/
theorem approximates_divCore {m₁ m₂ : Nat} (h₁ : 0 < m₁) (h₂ : 0 < m₂) (e₁ e₂ : Int) :
    ∃ mantissa power accuracy, divCore .binary64 m₁ e₁ m₂ e₂ = (mantissa, power, accuracy) ∧
      Approximates mantissa power accuracy (m₁ * 2 ^ e₁ / (m₂ * 2 ^ e₂)) ∧
      power ≤ target mantissa power := by
  -- The quotient is formed with a power of two so small that it has enough bits.
  obtain ⟨power, power_eq⟩ : ∃ power, power = min (e₁ - e₂) (Format.binary64.targetExponent
      (totalExponent m₁ e₁ - totalExponent m₂ e₂)) := ⟨_, rfl⟩
  obtain ⟨shift, shift_eq⟩ : ∃ shift : Nat, (shift : Int) = e₁ - e₂ - power :=
    ⟨(e₁ - e₂ - power).toNat, by omega⟩
  have quotient : (m₁ : ℚ) * 2 ^ e₁ / (m₂ * 2 ^ e₂) / 2 ^ power =
      (m₁ <<< shift : Nat) / m₂ := by
    rw [show e₁ = shift + e₂ + power by omega, zpow_add₀ (by norm_num), zpow_add₀ (by norm_num),
      zpow_natCast, Nat.shiftLeft_eq]
    push_cast
    field_simp
  have known : Approximates ((m₁ <<< shift) / m₂) power
      (accuracyOfFraction ((m₁ <<< shift) % m₂) m₂) (m₁ * 2 ^ e₁ / (m₂ * 2 ^ e₂)) := by
    rw [Approximates, quotient]
    exact truncates_quotient _ h₂
  have precise : power ≤ target ((m₁ <<< shift) / m₂) power := by
    rw [targetExponent_binary64, totalExponent, totalExponent] at power_eq
    by_cases least : power ≤ -1074
    · exact least.trans (le_max_right _ _)
    · exact le_target_of_wide (wide_quotient h₁ h₂ (by omega)) power
  have amount : (e₁ - e₂ - power).toNat = shift := by omega
  refine ⟨_, _, _, ?_, known, precise⟩
  rw [divCore, ← power_eq, amount]

/-- The quotient of two operands is the number in whose interval the exact quotient lies. -/
theorem div_eq (held : IsHeld significand exponent) (positive : 0 < significand)
    {m₁ m₂ : Nat} {e₁ e₂ : Int} (h₁ : 0 < m₁) (h₂ : 0 < m₂)
    (inside : (roundingInterval significand exponent).Contains (m₁ * 2 ^ e₁ / (m₂ * 2 ^ e₂)))
    (s₁ s₂ : Sign) :
    UnpackedFloat.div .binary64 (.finite s₁ m₁ e₁ h₁) (.finite s₂ m₂ e₂ h₂) =
      .finite (s₁ / s₂) significand exponent positive := by
  obtain ⟨mantissa, power, accuracy, core, known, precise⟩ := approximates_divCore h₁ h₂ e₁ e₂
  simp only [UnpackedFloat.div, core]
  exact roundWithAccuracy_eq held positive known precise inside _

end Binary64
end PlaneRegion
