import PlaneRegion.Proofs.Binary64.Packing
import PlaneRegion.Proofs.Decimal.Shortest

/-!
# Rounding to binary64

Arithmetic cuts a number off at a mantissa, keeps two bits of what lies behind it, and rounds by
them.  The bits survive every shift, so a number is rounded to the significand and the exponent in
whose interval it lies.  Below a power of two the mantissa is first cut off one place further down,
and rounding carries it up.
-/

namespace PlaneRegion
namespace Binary64

open Float.Model Float.Model.UnpackedFloat

/-- A mantissa is cut off from a number, and the bits behind it tell where between the mantissa and
the next one the number lies. -/
structure Truncates (extended : ExtendedMantissa) (x : ℚ) : Prop where
  lower : extended.mantissa ≤ x
  upper : x < extended.mantissa + 1
  half : extended.roundBit = true ↔ extended.mantissa + 1 / 2 ≤ x
  exact : extended.stickyBit = false ↔ x = extended.mantissa ∨ x = extended.mantissa + 1 / 2

/-- The integer is nearest to a number; of two such integers it is the even one. -/
structure RoundsTo (x : ℚ) (n : Nat) : Prop where
  lower : n - 1 / 2 ≤ x
  upper : x ≤ n + 1 / 2
  even : x = n - 1 / 2 ∨ x = n + 1 / 2 → n % 2 = 0

theorem Truncates.residue {extended : ExtendedMantissa} {x : ℚ} (cut : Truncates extended x) :
    (extended.roundBit || extended.stickyBit) = false ↔ x = extended.mantissa := by
  rw [Bool.or_eq_false_iff, cut.exact, ← Bool.not_eq_true, cut.half, not_le]
  constructor
  · rintro ⟨below, same | half⟩
    · exact same
    · linarith
  · intro same
    exact ⟨by linarith, Or.inl same⟩

theorem Truncates.shiftRightOne {extended : ExtendedMantissa} {x : ℚ}
    (cut : Truncates extended x) : Truncates extended.shiftRightOne (x / 2) := by
  have lower := cut.lower
  have upper := cut.upper
  have residue := cut.residue
  obtain ⟨mantissa, roundBit, stickyBit⟩ := extended
  simp only at lower upper residue
  -- The bit that is shifted out becomes the round bit; the other two are merged.
  obtain ⟨m, whole | whole⟩ : ∃ m, mantissa = 2 * m ∨ mantissa = 2 * m + 1 :=
    ⟨mantissa / 2, by omega⟩
  · have shifted : ExtendedMantissa.shiftRightOne ⟨mantissa, roundBit, stickyBit⟩ =
        ⟨m, false, roundBit || stickyBit⟩ := by
      simp [ExtendedMantissa.shiftRightOne, whole]
    subst whole
    push_cast at lower upper residue
    rw [shifted]
    refine ⟨by linarith, by linarith, ?_, ?_⟩
    · simp only [Bool.false_eq_true, false_iff, not_le]
      linarith
    · rw [residue]
      constructor
      · intro same
        exact Or.inl (by linarith)
      · rintro (same | half) <;> linarith
  · have shifted : ExtendedMantissa.shiftRightOne ⟨mantissa, roundBit, stickyBit⟩ =
        ⟨m, true, roundBit || stickyBit⟩ := by
      simp only [ExtendedMantissa.shiftRightOne, whole, ExtendedMantissa.mk.injEq]
      refine ⟨by omega, by simp, trivial⟩
    subst whole
    push_cast at lower upper residue
    rw [shifted]
    refine ⟨by linarith, by linarith, ?_, ?_⟩
    · simp only [true_iff]
      linarith
    · rw [residue]
      constructor
      · intro same
        exact Or.inr (by linarith)
      · rintro (same | half) <;> linarith

theorem Truncates.shiftRight {extended : ExtendedMantissa} {x : ℚ} (cut : Truncates extended x)
    (n : Nat) : Truncates (extended >>> n) (x / 2 ^ n) := by
  change Truncates (n.repeat ExtendedMantissa.shiftRightOne extended) _
  induction n with
  | zero => simpa [Nat.repeat] using cut
  | succ n induction =>
      rw [pow_succ, ← div_div]
      exact induction.shiftRightOne

theorem Truncates.roundedMantissa {extended : ExtendedMantissa} {x : ℚ} {n : Nat}
    (cut : Truncates extended x) (nearest : RoundsTo x n) : extended.roundedMantissa = n := by
  obtain ⟨mantissa, roundBit, stickyBit⟩ := extended
  obtain ⟨lower, upper, half, exact⟩ := cut
  simp only at lower upper half exact
  have least : mantissa ≤ n := by
    have below : (mantissa : ℚ) < n + 1 := by linarith [nearest.upper]
    exact Nat.lt_succ_iff.mp (by exact_mod_cast below)
  have greatest : n ≤ mantissa + 1 := by
    have above : (n : ℚ) < mantissa + 1 + 1 := by linarith [nearest.lower]
    exact Nat.lt_succ_iff.mp (by exact_mod_cast above)
  obtain rfl | rfl : n = mantissa ∨ n = mantissa + 1 := by omega
  · cases roundBit with
    | false => cases stickyBit <;> rfl
    | true =>
      have middle : x = n + 1 / 2 := le_antisymm nearest.upper (half.mp rfl)
      have even := nearest.even (Or.inr middle)
      obtain rfl : stickyBit = false := exact.mpr (Or.inr middle)
      exact congrArg (n + ·) even
  · have start := nearest.lower
    push_cast at start
    obtain rfl : roundBit = true := half.mpr (by linarith)
    cases stickyBit with
    | true => rfl
    | false =>
        have middle : x = mantissa + 1 / 2 := (exact.mp rfl).resolve_left (by intro; linarith)
        have even := nearest.even (Or.inl (by push_cast; linarith))
        change mantissa + mantissa % 2 = mantissa + 1
        omega

/-! ## The exponent of the result -/

/-- The exponent that a truncated number is rounded to. -/
def target (mantissa : Nat) (exponent : Int) : Int :=
  max (mantissa.log2 + exponent - 52) (-1074)

theorem targetExponent_binary64 (total : Int) :
    Format.binary64.targetExponent total = max (total - 53) (-1074) :=
  rfl

theorem targetExponent_eq (mantissa : Nat) (exponent : Int) :
    Format.binary64.targetExponent (totalExponent mantissa exponent) =
      target mantissa exponent := by
  rw [targetExponent_binary64, totalExponent, target]
  congr 1
  ring

theorem shiftToTargetExponent_eq {mantissa : Nat} {exponent : Int} (accuracy : Accuracy)
    (precise : exponent ≤ target mantissa exponent) :
    shiftToTargetExponent .binary64 mantissa exponent accuracy =
      (ExtendedMantissa.ofMantissaAndAccuracy mantissa accuracy >>>
        (target mantissa exponent - exponent).toNat, target mantissa exponent) := by
  rw [shiftToTargetExponent, targetExponent_eq, shiftToExponent]
  congr 1
  omega

/-- A number `v` is cut off at a mantissa that counts the power of two with the given exponent. -/
def Approximates (mantissa : Nat) (exponent : Int) (accuracy : Accuracy) (v : ℚ) : Prop :=
  Truncates (ExtendedMantissa.ofMantissaAndAccuracy mantissa accuracy) (v / 2 ^ exponent)

section Cut

variable {mantissa : Nat} {exponent : Int} {accuracy : Accuracy} {v : ℚ}

theorem mantissa_ofMantissaAndAccuracy :
    (ExtendedMantissa.ofMantissaAndAccuracy mantissa accuracy).mantissa = mantissa := by
  cases accuracy with
  | exact => rfl
  | inexact side => cases side <;> rfl

theorem Approximates.shifted (known : Approximates mantissa exponent accuracy v)
    (precise : exponent ≤ target mantissa exponent) :
    Truncates (ExtendedMantissa.ofMantissaAndAccuracy mantissa accuracy >>>
      (target mantissa exponent - exponent).toNat) (v / 2 ^ target mantissa exponent) := by
  have shifted := known.shiftRight (target mantissa exponent - exponent).toNat
  rwa [div_div, ← zpow_natCast, ← zpow_add₀ (by norm_num), Int.toNat_of_nonneg (by omega),
    add_sub_cancel] at shifted

theorem Approximates.lt (known : Approximates mantissa exponent accuracy v) :
    v < 2 ^ (target mantissa exponent + 53) := by
  have upper := known.upper
  rw [mantissa_ofMantissaAndAccuracy, div_lt_iff₀ (by positivity)] at upper
  have whole : ((mantissa + 1 : Nat) : ℚ) ≤ (2 ^ (mantissa.log2 + 1) : Nat) :=
    Nat.cast_le.mpr Nat.lt_log2_self
  calc v < (mantissa + 1) * 2 ^ exponent := upper
    _ ≤ 2 ^ (mantissa.log2 + 1) * 2 ^ exponent := by
        refine mul_le_mul_of_nonneg_right ?_ (by positivity)
        exact_mod_cast whole
    _ = 2 ^ ((mantissa.log2 + 1 : Nat) + exponent) := by
        rw [zpow_add₀ (by norm_num), zpow_natCast]
    _ ≤ 2 ^ (target mantissa exponent + 53) := by
        refine zpow_le_zpow_right₀ (by norm_num) ?_
        rw [target]
        omega

theorem Approximates.le (known : Approximates mantissa exponent accuracy v)
    (precise : exponent ≤ target mantissa exponent)
    (normal : target mantissa exponent ≠ -1074) :
    2 ^ (target mantissa exponent + 52) ≤ v := by
  have lower := known.lower
  rw [mantissa_ofMantissaAndAccuracy, le_div_iff₀ (by positivity)] at lower
  rw [target] at precise normal
  have some : mantissa ≠ 0 := by
    rintro rfl
    rw [Nat.log2_zero] at precise normal
    omega
  have whole : ((2 ^ mantissa.log2 : Nat) : ℚ) ≤ mantissa :=
    Nat.cast_le.mpr (Nat.log2_self_le some)
  calc (2 : ℚ) ^ (target mantissa exponent + 52) = 2 ^ ((mantissa.log2 : Nat) + exponent) := by
        congr 1
        rw [target]
        omega
    _ = 2 ^ mantissa.log2 * 2 ^ exponent := by rw [zpow_add₀ (by norm_num), zpow_natCast]
    _ ≤ mantissa * 2 ^ exponent := by
        refine mul_le_mul_of_nonneg_right ?_ (by positivity)
        exact_mod_cast whole
    _ ≤ v := lower

end Cut

/-! ## Numbers in the interval of a binary number -/

/-- The interval of the numbers that are rounded to a significand and an exponent. -/
abbrev roundingInterval (significand : Nat) (exponent : Int) : Decimal.Interval :=
  Decimal.Interval.around significand exponent (significand = hiddenBit)

section Interval

variable {significand : Nat} {exponent : Int} {v : ℚ}

theorem unit_roundingInterval :
    (roundingInterval significand exponent).unit = 2 ^ exponent / 4 := by
  rw [Decimal.Interval.unit_around, zpow_sub₀ (by norm_num)]
  norm_num

theorem lower_roundingInterval (positive : 0 < significand) :
    ((roundingInterval significand exponent).lower : ℚ) =
      4 * significand - if significand = hiddenBit then 1 else 2 := by
  simp only [Decimal.Interval.around, decide_eq_true_eq]
  split_ifs <;>
  · rw [Nat.cast_sub (by omega)]
    push_cast
    rfl

theorem upper_roundingInterval :
    ((roundingInterval significand exponent).upper : ℚ) = 4 * significand + 2 := by
  simp only [Decimal.Interval.around]
  push_cast
  rfl

/-- In units of the last place, the interval reaches half a unit down and up, and a quarter down
from a power of two. -/
theorem roundsTo_of_contains (positive : 0 < significand)
    (inside : (roundingInterval significand exponent).Contains v) :
    RoundsTo (v / 2 ^ exponent) significand ∧
      (significand = hiddenBit → significand - 1 / 4 ≤ v / 2 ^ exponent) := by
  have power : (0 : ℚ) < 2 ^ exponent := by positivity
  have quarters : v = 4 * (v / 2 ^ exponent) * (2 ^ exponent / 4) := by
    calc v = v / 2 ^ exponent * 2 ^ exponent := (div_mul_cancel₀ v power.ne').symm
      _ = 4 * (v / 2 ^ exponent) * (2 ^ exponent / 4) := by ring
  generalize v / 2 ^ exponent = x at quarters
  obtain ⟨below, above⟩ := inside
  rw [quarters, unit_roundingInterval, Decimal.Interval.reaches_mul_iff (by positivity)]
    at below above
  rw [lower_roundingInterval positive] at below
  rw [upper_roundingInterval] at above
  have start := below.le
  have stop := above.le
  refine ⟨⟨?_, by linarith, ?_⟩, ?_⟩
  · split_ifs at start <;> linarith
  · intro ends
    by_contra odd
    have isOpen : (roundingInterval significand exponent).closed = false :=
      beq_eq_false_iff_ne.mpr odd
    have notPower : significand ≠ hiddenBit := by
      rintro rfl
      exact odd rfl
    have strictStart := below.lt isOpen
    have strictStop := above.lt isOpen
    rw [if_neg notPower] at strictStart
    rcases ends with rfl | rfl <;> linarith
  · intro atPower
    rw [if_pos atPower] at start
    linarith

end Interval

/-! ## Rounding -/

section Rounding

variable {significand : Nat} {exponent : Int}

/-- The form that rounding gives a significand and an exponent. The exponent may still be too large
for the fields of a number. -/
structure IsRounded (significand : Nat) (exponent : Int) : Prop where
  below : significand < 2 * hiddenBit
  least : -1074 ≤ exponent
  leading : hiddenBit ≤ significand ∨ exponent = -1074

theorem IsHeld.isRounded (held : IsHeld significand exponent) : IsRounded significand exponent :=
  ⟨held.below, held.least, held.leading⟩

theorem IsRounded.target_eq (rounded : IsRounded significand exponent)
    (positive : 0 < significand) : target significand exponent = exponent := by
  rw [target]
  rcases rounded.leading with normal | least
  · rw [log2_of_leading normal rounded.below]
    have := rounded.least
    omega
  · have width : significand.log2 < 53 := (Nat.log2_lt positive.ne').mpr rounded.below
    omega

/-- A significand that fits its exponent is not shifted. -/
theorem IsRounded.shiftToTargetExponent_eq (rounded : IsRounded significand exponent)
    (positive : 0 < significand) :
    shiftToTargetExponent .binary64 significand exponent .exact =
      (⟨significand, false, false⟩, exponent) := by
  rw [Binary64.shiftToTargetExponent_eq .exact (rounded.target_eq positive).ge,
    rounded.target_eq positive, sub_self]
  rfl

/-- A significand that rounding has carried out of its width is halved. -/
theorem shiftToTargetExponent_carry {exponent : Int} (least : -1074 ≤ exponent) :
    shiftToTargetExponent .binary64 (2 * hiddenBit) exponent .exact =
      (⟨hiddenBit, false, false⟩, exponent + 1) := by
  have next : target (2 * hiddenBit) exponent = exponent + 1 := by
    rw [target, show (2 * hiddenBit).log2 = 53 by rw [Nat.log2_eq_iff] <;> decide]
    omega
  rw [Binary64.shiftToTargetExponent_eq .exact (by omega), next, add_sub_cancel_left]
  rfl

variable {mantissa : Nat} {power : Int} {accuracy : Accuracy} {v : ℚ}

/-- A number in an interval is cut off at the exponent of the interval or, below a power of two, at
the one before it. -/
theorem target_of_contains (held : IsHeld significand exponent) (positive : 0 < significand)
    (known : Approximates mantissa power accuracy v) (precise : power ≤ target mantissa power)
    (inside : (roundingInterval significand exponent).Contains v) :
    target mantissa power = exponent ∨
      target mantissa power = exponent - 1 ∧ significand = hiddenBit := by
  have nearest := (roundsTo_of_contains positive inside).1
  have least : -1074 ≤ target mantissa power := le_max_right _ _
  have upper : v / 2 ^ exponent < 2 ^ (target mantissa power + 53 - exponent) := by
    rw [div_lt_iff₀ (by positivity), ← zpow_add₀ (by norm_num), sub_add_cancel]
    exact known.lt
  have lower : target mantissa power ≠ -1074 →
      2 ^ (target mantissa power + 52 - exponent) ≤ v / 2 ^ exponent := by
    intro normal
    rw [le_div_iff₀ (by positivity), ← zpow_add₀ (by norm_num), sub_add_cancel]
    exact known.le precise normal
  have width : (significand : ℚ) + 1 ≤ 2 ^ 53 := by exact_mod_cast held.below
  have notAbove : target mantissa power ≤ exponent := by
    by_contra above
    have start := lower (by have := held.least; omega)
    have step : (2 : ℚ) ^ 53 ≤ 2 ^ (target mantissa power + 52 - exponent) :=
      (zpow_natCast 2 53).symm.trans_le (zpow_le_zpow_right₀ (by norm_num) (by omega))
    have stop := nearest.upper
    linarith
  by_cases same : target mantissa power = exponent
  · exact Or.inl same
  right
  have leading : (2 : ℚ) ^ 52 ≤ significand := by
    exact_mod_cast held.leading.resolve_right (by omega)
  have start := nearest.lower
  constructor
  · by_contra notBefore
    have step : (2 : ℚ) ^ (target mantissa power + 53 - exponent) ≤ 2 ^ 51 :=
      (zpow_le_zpow_right₀ (by norm_num) (by omega)).trans_eq (zpow_natCast 2 51)
    linarith
  · have step : (2 : ℚ) ^ (target mantissa power + 53 - exponent) ≤ 2 ^ 52 :=
      (zpow_le_zpow_right₀ (by norm_num) (by omega)).trans_eq (zpow_natCast 2 52)
    have narrow : (significand : ℚ) < 2 ^ 52 + 1 := by linarith
    have whole : significand < hiddenBit + 1 := by exact_mod_cast narrow
    have normal : hiddenBit ≤ significand := held.leading.resolve_right (by omega)
    omega

/-- Every number in the interval of a significand and an exponent is rounded to them. -/
theorem roundWithAccuracy_eq (held : IsHeld significand exponent) (positive : 0 < significand)
    (known : Approximates mantissa power accuracy v) (precise : power ≤ target mantissa power)
    (inside : (roundingInterval significand exponent).Contains v) (sign : Sign) :
    roundWithAccuracy .binary64 sign mantissa power accuracy =
      .finite sign significand exponent positive := by
  obtain ⟨nearest, quarter⟩ := roundsTo_of_contains positive inside
  have cut := known.shifted precise
  rw [roundWithAccuracy, shiftToTargetExponent_eq accuracy precise]
  rcases target_of_contains held positive known precise inside with same | ⟨before, atPower⟩
  · rw [same] at cut ⊢
    simp only [cut.roundedMantissa nearest, held.isRounded.shiftToTargetExponent_eq positive,
      dif_neg positive.ne']
  · -- The number is rounded up to the power of two that its interval belongs to.
    subst atPower
    have doubled : v / 2 ^ (exponent - 1) = 2 * (v / 2 ^ exponent) := by
      rw [zpow_sub_one₀ (by norm_num)]
      field_simp
    have up : RoundsTo (v / 2 ^ (exponent - 1)) (2 * hiddenBit) := by
      have upper := known.lt
      rw [before] at upper
      have stop : v / 2 ^ (exponent - 1) < 2 * hiddenBit := by
        rw [div_lt_iff₀ (by positivity)]
        refine upper.trans_eq ?_
        rw [zpow_add₀ (by norm_num), mul_comm]
        norm_num [hiddenBit]
      have start := quarter rfl
      refine ⟨?_, ?_, fun _ => rfl⟩
      · push_cast
        linarith
      · push_cast
        linarith
    rw [before] at cut ⊢
    have least : -1074 ≤ exponent - 1 := before ▸ le_max_right _ _
    simp only [cut.roundedMantissa up, shiftToTargetExponent_carry least, sub_add_cancel,
      dif_neg positive.ne']

end Rounding

end Binary64
end PlaneRegion
