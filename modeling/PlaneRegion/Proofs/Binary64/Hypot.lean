import PlaneRegion.Proofs.Binary64.Comparison
import PlaneRegion.Proofs.Binary64.SquareRoot

/-!
# Hypotenuses of finite legs

Long and short legs are brought to a middle scale before they are squared, so the hypotenuse over
two legs is less than one and a half times a power of two that bounds them, and does not overflow
before that.
-/

namespace PlaneRegion
namespace Binary64

/-! ## Scales -/

private theorem rational_of_decode {x : Float} (exponent : Int)
    (decoded : decode x = .finite false hiddenBit exponent) :
    x.isFinite = true ∧ rational x = 2 ^ (52 + exponent) := by
  refine ⟨isFinite_iff.mpr ⟨_, _, _, decoded⟩, ?_⟩
  rw [rational, decoded, Value.rational, if_neg Bool.false_ne_true, one_mul,
    zpow_add₀ (by norm_num)]
  norm_num [hiddenBit]

private theorem rational_longUnit :
    longUnit.isFinite = true ∧ rational longUnit = 2 ^ (600 : Int) :=
  rational_of_decode 548 (by decide)

private theorem rational_shortUnit :
    (1 / longUnit).isFinite = true ∧ rational (1 / longUnit) = 2 ^ (-600 : Int) :=
  rational_of_decode (-652) (by decide)

private theorem rational_longLimit :
    longLimit.isFinite = true ∧ rational longLimit = 2 ^ (500 : Int) :=
  rational_of_decode 448 (by decide)

private theorem rational_shortLimit :
    shortLimit.isFinite = true ∧ rational shortLimit = 2 ^ (-460 : Int) :=
  rational_of_decode (-512) (by decide)

theorem rational_one : (1 : Float).isFinite = true ∧ rational 1 = 2 ^ (0 : Int) :=
  rational_of_decode (-52) (by decide)

/-! ## Hypotenuses -/

theorem fits_three_mul_pow {e : Int} (least : -1074 ≤ e) (greatest : e ≤ 1022) :
    Fits (3 * 2 ^ e) := by
  have small : ((3 : Nat) : ℚ) * 2 ^ e < overflow := by
    calc ((3 : Nat) : ℚ) * 2 ^ e < 2 ^ (2 : Int) * 2 ^ e :=
          mul_lt_mul_of_pos_right (by norm_num) (by positivity)
      _ = 2 ^ (2 + e) := (zpow_add₀ (by norm_num) _ _).symm
      _ ≤ overflow := by
          rw [overflow]
          exact zpow_le_zpow_right₀ (by norm_num) (by omega)
  exact_mod_cast fits_mul_pow (by decide) least small

private theorem three_mul_pow_le {m n : Int} (atMost : m ≤ n) : (3 * 2 ^ m : ℚ) ≤ 3 * 2 ^ n :=
  mul_le_mul_of_nonneg_left (zpow_le_zpow_right₀ (by norm_num) atMost) (by norm_num)

private theorem scaled_hypot_le {x y unit : Float} {n scale : Int} (finiteX : x.isFinite = true)
    (finiteY : y.isFinite = true) (finiteUnit : unit.isFinite = true)
    (isUnit : rational unit = 2 ^ scale) (boundX : |rational x| ≤ 2 ^ n)
    (boundY : |rational y| ≤ 2 ^ n) (notShort : -500 ≤ n - scale) (notLong : n - scale ≤ 500)
    (least : -1000 ≤ n) (greatest : n ≤ 1023) :
    (unit * ((x / unit) * (x / unit) + (y / unit) * (y / unit)).sqrt).isFinite = true ∧
      0 ≤ rational (unit * ((x / unit) * (x / unit) + (y / unit) * (y / unit)).sqrt) ∧
      rational (unit * ((x / unit) * (x / unit) + (y / unit) * (y / unit)).sqrt) ≤
        3 * 2 ^ (n - 1) := by
  obtain ⟨k, k_eq⟩ : ∃ k, k = n - scale := ⟨_, rfl⟩
  have scalePositive : (0 : ℚ) < 2 ^ scale := by positivity
  have quotient {z : Float} (finite : z.isFinite = true) (bound : |rational z| ≤ 2 ^ n) :
      (z / unit).isFinite = true ∧ |rational (z / unit)| ≤ 2 ^ k := by
    refine (rounds_div finite finiteUnit (isUnit ▸ scalePositive.ne')).within
      (fits_pow (by omega) (by omega)) ?_
    rw [isUnit, abs_div, abs_of_pos scalePositive, div_le_iff₀ scalePositive, k_eq,
      ← zpow_add₀ (by norm_num), sub_add_cancel]
    exact bound
  have square {z : Float} (bounded : z.isFinite = true ∧ |rational z| ≤ 2 ^ k) :
      (z * z).isFinite = true ∧ 0 ≤ rational (z * z) ∧ rational (z * z) ≤ 2 ^ (2 * k) := by
    refine (rounds_mul bounded.1 bounded.1).between fits_zero (fits_pow (by omega) (by omega))
      (mul_self_nonneg _) ?_
    rw [← abs_mul_abs_self, two_mul, zpow_add₀ (by norm_num)]
    exact mul_self_le_mul_self (abs_nonneg _) bounded.2
  obtain ⟨finiteXX, nonnegXX, boundXX⟩ := square (quotient finiteX boundX)
  obtain ⟨finiteYY, nonnegYY, boundYY⟩ := square (quotient finiteY boundY)
  have doubled : (2 : ℚ) ^ (2 * k) + 2 ^ (2 * k) = 2 ^ (2 * k + 1) := by
    rw [zpow_add_one₀ (by norm_num)]
    ring
  obtain ⟨finiteSum, nonnegSum, boundSum⟩ := (rounds_add finiteXX finiteYY).between fits_zero
    (fits_pow (e := 2 * k + 1) (by omega) (by omega)) (add_nonneg nonnegXX nonnegYY)
    (by linarith)
  have enough : (2 : ℚ) ^ (2 * k + 1) ≤ (3 * 2 ^ (k - 1)) ^ 2 := by
    have whole : (3 * 2 ^ (k - 1) : ℚ) ^ 2 = 9 / 4 * 2 ^ (2 * k) := by
      rw [zpow_sub_one₀ (by norm_num), two_mul, zpow_add₀ (by norm_num)]
      ring
    have positive : (0 : ℚ) < 2 ^ (2 * k) := by positivity
    linarith
  obtain ⟨finiteRoot, nonnegRoot, boundRoot⟩ := sqrt_le finiteSum nonnegSum
    (fits_three_mul_pow (by omega) (by omega)) (by positivity) (boundSum.trans enough)
  refine (rounds_mul finiteUnit finiteRoot).between fits_zero
    (fits_three_mul_pow (by omega) (by omega)) (isUnit ▸ by positivity) ?_
  calc rational unit * rational _ ≤ 2 ^ scale * (3 * 2 ^ (k - 1)) := by
        rw [isUnit]
        exact mul_le_mul_of_nonneg_left boundRoot scalePositive.le
    _ = 3 * (2 ^ scale * 2 ^ (k - 1)) := by ring
    _ = 3 * 2 ^ (n - 1) := by
        rw [← zpow_add₀ (by norm_num), k_eq]
        congr 2
        omega

/-- The hypotenuse over legs of at most a power of two is at most one and a half times as large. -/
theorem hypot_le {x y : Float} {n : Int} (finiteX : x.isFinite = true) (finiteY : y.isFinite = true)
    (boundX : |rational x| ≤ 2 ^ n) (boundY : |rational y| ≤ 2 ^ n) (nonneg : 0 ≤ n)
    (greatest : n ≤ 1023) :
    (hypot x y).isFinite = true ∧ 0 ≤ rational (hypot x y) ∧
      rational (hypot x y) ≤ 3 * 2 ^ (n - 1) := by
  obtain ⟨finiteAbsX, absX⟩ := rational_abs finiteX
  obtain ⟨finiteAbsY, absY⟩ := rational_abs finiteY
  obtain ⟨finiteMax, isMax⟩ := rational_max finiteAbsX finiteAbsY
  rw [absX, absY] at isMax
  have opened : hypot x y = legUnit (max x.abs y.abs) *
      ((x / legUnit (max x.abs y.abs)) * (x / legUnit (max x.abs y.abs)) +
        (y / legUnit (max x.abs y.abs)) * (y / legUnit (max x.abs y.abs))).sqrt := by
    simp [hypot, isInf_of_isFinite finiteX, isInf_of_isFinite finiteY]
  have leX : |rational x| ≤ rational (max x.abs y.abs) := isMax ▸ le_max_left _ _
  have leY : |rational y| ≤ rational (max x.abs y.abs) := isMax ▸ le_max_right _ _
  have atMost : rational (max x.abs y.abs) ≤ 2 ^ n := isMax ▸ max_le boundX boundY
  rw [opened]
  unfold legUnit
  generalize max x.abs y.abs = longest at *
  split_ifs with long short
  · have more := (lt_iff_rational rational_longLimit.1 finiteMax).mp long
    rw [rational_longLimit.2] at more
    have large : 500 < n := (zpow_lt_zpow_iff_right₀ (by norm_num)).mp (more.trans_le atMost)
    exact scaled_hypot_le finiteX finiteY rational_longUnit.1 rational_longUnit.2 boundX boundY
      (by omega) (by omega) (by omega) greatest
  · have less := (lt_iff_rational finiteMax rational_shortLimit.1).mp short
    rw [rational_shortLimit.2] at less
    obtain ⟨finite, atLeastZero, bounded⟩ := scaled_hypot_le finiteX finiteY rational_shortUnit.1
      rational_shortUnit.2 (leX.trans less.le) (leY.trans less.le) (by omega) (by omega) (by omega)
      (by omega)
    exact ⟨finite, atLeastZero, bounded.trans (three_mul_pow_le (by omega))⟩
  · have notMore := mt (lt_iff_rational rational_longLimit.1 finiteMax).mpr long
    rw [rational_longLimit.2, not_lt] at notMore
    have within : rational longest ≤ 2 ^ (min n 500) := by
      rcases min_choice n 500 with same | same <;> rw [same]
      · exact atMost
      · exact notMore
    obtain ⟨finite, atLeastZero, bounded⟩ := scaled_hypot_le finiteX finiteY rational_one.1
      rational_one.2 (leX.trans within) (leY.trans within) (by omega) (by omega) (by omega)
      (by omega)
    exact ⟨finite, atLeastZero, bounded.trans (three_mul_pow_le (by omega))⟩

end Binary64
end PlaneRegion
