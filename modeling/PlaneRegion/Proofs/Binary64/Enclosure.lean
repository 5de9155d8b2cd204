import PlaneRegion.Proofs.Binary64.Arithmetic

/-!
# Bounds that rounding keeps

Rounding never carries an exact result over a number that the fields of a number can hold. So a
result with such bounds is finite and keeps them, and a result that is not finite exceeds every
bound on one side.
-/

namespace PlaneRegion
namespace Binary64

open Float.Model Float.Model.UnpackedFloat

/-! ## Values and bounds -/

/-- The rational number that a finite value stands for. -/
def Value.rational : Value → ℚ
  | .finite negative significand exponent =>
      (if negative then -1 else 1) * (significand * 2 ^ exponent)
  | _ => 0

/-- The rational number that a finite number stands for. -/
def rational (x : Float) : ℚ :=
  (decode x).rational

/-- The least power of two that is too large for the fields of a number. It is never evaluated. -/
@[irreducible]
def overflow : ℚ :=
  2 ^ (1024 : ℤ)

/-- A rational number that the fields of a number can hold, up to its sign. -/
def Fits (r : ℚ) : Prop :=
  |r| < overflow ∧ ∃ significand exponent, significand < 2 * hiddenBit ∧ -1074 ≤ exponent ∧
    |r| = (significand : Nat) * 2 ^ (exponent : Int)

theorem overflow_pos : 0 < overflow := by
  rw [overflow]
  exact zpow_pos two_pos _

theorem fits_zero : Fits 0 := by
  have positive := overflow_pos
  exact ⟨by rwa [abs_zero], 0, 0, by decide, by decide, by simp⟩

theorem Fits.neg {r : ℚ} (fits : Fits r) : Fits (-r) := by
  rwa [Fits, abs_neg]

theorem fits_mul_pow {significand : Nat} {exponent : Int} (below : significand < 2 * hiddenBit)
    (least : -1074 ≤ exponent) (small : (significand : ℚ) * 2 ^ exponent < overflow) :
    Fits (significand * 2 ^ exponent) := by
  have nonneg : (0 : ℚ) ≤ significand * 2 ^ exponent := by positivity
  rw [Fits, abs_of_nonneg nonneg]
  exact ⟨small, significand, exponent, below, least, rfl⟩

theorem fits_pow {e : Int} (least : -1074 ≤ e) (greatest : e < 1024) : Fits (2 ^ e) := by
  have small : ((1 : Nat) : ℚ) * 2 ^ e < overflow := by
    rw [Nat.cast_one, one_mul]
    rw [overflow]
    exact zpow_lt_zpow_right₀ (by norm_num) greatest
  simpa using fits_mul_pow (by decide) least small

/-- A number that fits does so times a power of two, unless it grows too large. -/
theorem Fits.mul_pow {r : ℚ} (fits : Fits r) {n : Int} (nonneg : 0 ≤ n)
    (small : |r| * 2 ^ n < overflow) : Fits (r * 2 ^ n) := by
  obtain ⟨-, significand, exponent, below, least, same⟩ := fits
  have size : |r * 2 ^ n| = |r| * 2 ^ n := by
    rw [abs_mul, abs_of_pos (by positivity : (0 : ℚ) < 2 ^ n)]
  refine ⟨size ▸ small, significand, exponent + n, below, by omega, ?_⟩
  rw [size, same, mul_assoc, zpow_add₀ (by norm_num)]

/-- A significand has at most 53 bits. -/
theorem mul_pow_lt {significand : Nat} {exponent n : Int} (below : significand < 2 * hiddenBit)
    (room : exponent + 53 ≤ n) : (significand * 2 ^ exponent : ℚ) < 2 ^ n := by
  have width : (significand : ℚ) < 2 ^ (53 : ℤ) := by exact_mod_cast below
  calc (significand * 2 ^ exponent : ℚ) < 2 ^ (53 : ℤ) * 2 ^ exponent :=
        mul_lt_mul_of_pos_right width (by positivity)
    _ = 2 ^ (exponent + 53) := by rw [zpow_add₀ (by norm_num), mul_comm]
    _ ≤ 2 ^ n := zpow_le_zpow_right₀ (by norm_num) room

/-- A significand with its leading bit has 53 bits. -/
theorem pow_le_mul_pow {significand : Nat} {exponent n : Int} (leading : hiddenBit ≤ significand)
    (reach : n ≤ exponent + 52) : (2 ^ n : ℚ) ≤ significand * 2 ^ exponent := by
  have wide : (2 : ℚ) ^ (52 : ℤ) ≤ significand := by exact_mod_cast leading
  calc (2 ^ n : ℚ) ≤ 2 ^ (exponent + 52) := zpow_le_zpow_right₀ (by norm_num) reach
    _ = 2 ^ (52 : ℤ) * 2 ^ exponent := by rw [zpow_add₀ (by norm_num), mul_comm]
    _ ≤ significand * 2 ^ exponent := mul_le_mul_of_nonneg_right wide (by positivity)

theorem IsHeld.lt {significand : Nat} {exponent : Int} (held : IsHeld significand exponent) :
    (significand * 2 ^ exponent : ℚ) < overflow := by
  rw [overflow]
  exact mul_pow_lt held.below (by linarith [held.greatest])

private theorem abs_rational (negative : Bool) (significand : Nat) (exponent : Int) :
    |(Value.finite negative significand exponent).rational| = significand * 2 ^ exponent := by
  have nonneg : (0 : ℚ) ≤ significand * 2 ^ exponent := by positivity
  cases negative <;> simp [Value.rational, abs_of_nonneg nonneg]

/-- Every finite number fits. -/
theorem fits_rational {x : Float} (finite : x.isFinite = true) : Fits (rational x) := by
  obtain ⟨negative, significand, exponent, decoded⟩ := isFinite_iff.mp finite
  have held := isHeld_of_decode decoded
  rw [rational, decoded, Fits, abs_rational]
  exact ⟨held.lt, significand, exponent, held.below, held.least, rfl⟩

/-- A value is defined and at least a bound. -/
def AtLeast (bound : ℚ) : Value → Prop
  | .finite negative significand exponent =>
      bound ≤ (Value.finite negative significand exponent).rational
  | .infinite negative => negative = false
  | .undefined => False

/-- A value is defined and at most a bound. -/
def AtMost (bound : ℚ) : Value → Prop
  | .finite negative significand exponent =>
      (Value.finite negative significand exponent).rational ≤ bound
  | .infinite negative => negative = true
  | .undefined => False

/-- A number is rounded to a value that every bound which fits is also a bound of. -/
structure Rounds (exact : ℚ) (value : Value) : Prop where
  lower : ∀ bound, Fits bound → bound ≤ exact → AtLeast bound value
  upper : ∀ bound, Fits bound → exact ≤ bound → AtMost bound value

/-- A finite value needs no rounding. -/
theorem rounds_rational (negative : Bool) (significand : Nat) (exponent : Int) :
    Rounds (Value.finite negative significand exponent).rational
      (.finite negative significand exponent) :=
  ⟨fun _ _ atLeast => atLeast, fun _ _ atMost => atMost⟩

section Bounds

variable {x : Float} {exact lower upper bound : ℚ}

/-- A result between two numbers that fit is finite and lies between them. -/
theorem Rounds.between (rounds : Rounds exact (decode x)) (lowerFits : Fits lower)
    (upperFits : Fits upper) (atLeast : lower ≤ exact) (atMost : exact ≤ upper) :
    x.isFinite = true ∧ lower ≤ rational x ∧ rational x ≤ upper := by
  have left := rounds.lower lower lowerFits atLeast
  have right := rounds.upper upper upperFits atMost
  rw [isFinite_iff, rational]
  cases decoded : decode x with
  | finite negative significand exponent =>
      rw [decoded] at left right
      exact ⟨⟨_, _, _, rfl⟩, left, right⟩
  | infinite negative =>
      rw [decoded] at left right
      exact absurd (left.symm.trans right) Bool.false_ne_true
  | undefined =>
      rw [decoded] at left
      cases left

/-- A result of at most a magnitude that fits is finite and has at most this magnitude. -/
theorem Rounds.within (rounds : Rounds exact (decode x)) (fits : Fits bound)
    (atMost : |exact| ≤ bound) : x.isFinite = true ∧ |rational x| ≤ bound := by
  obtain ⟨left, right⟩ := abs_le.mp atMost
  obtain ⟨finite, between⟩ := rounds.between fits.neg fits left right
  exact ⟨finite, abs_le.mpr between⟩

end Bounds

/-! ## Rounding a mantissa -/

theorem Truncates.le_roundedMantissa {extended : ExtendedMantissa} {x : ℚ} {n : Nat}
    (cut : Truncates extended x) (atLeast : n ≤ x) : n ≤ extended.roundedMantissa := by
  have below : (n : ℚ) < extended.mantissa + 1 := atLeast.trans_lt cut.upper
  have whole : n ≤ extended.mantissa := Nat.lt_succ_iff.mp (by exact_mod_cast below)
  refine whole.trans ?_
  obtain ⟨mantissa, _ | _, _ | _⟩ := extended <;>
    simp [ExtendedMantissa.roundedMantissa, ExtendedMantissa.accuracy,
      Accuracy.roundToNearestEven]

theorem Truncates.roundedMantissa_le {extended : ExtendedMantissa} {x : ℚ} {n : Nat}
    (cut : Truncates extended x) (atMost : x ≤ n) : extended.roundedMantissa ≤ n := by
  have least : (extended.mantissa : ℚ) ≤ n := cut.lower.trans atMost
  have residue := cut.residue
  have up : extended.roundedMantissa ≤ extended.mantissa + 1 := by
    obtain ⟨mantissa, _ | _, _ | _⟩ := extended <;>
      simp only [ExtendedMantissa.roundedMantissa, ExtendedMantissa.accuracy,
        Accuracy.roundToNearestEven] <;> omega
  rcases (Nat.cast_le.mp least).eq_or_lt with same | less
  · -- The number is the mantissa itself, which is not rounded.
    have whole : x = extended.mantissa := le_antisymm (same ▸ atMost) cut.lower
    rw [← residue] at whole
    obtain ⟨mantissa, _ | _, _ | _⟩ := extended <;> simp at whole
    exact same.le
  · omega

section Rounding

variable {mantissa : Nat} {power : Int} {accuracy : Accuracy} {v : ℚ}

theorem Approximates.nonneg (known : Approximates mantissa power accuracy v) : 0 ≤ v := by
  have lower := known.lower
  rw [le_div_iff₀ (by positivity)] at lower
  exact le_trans (by positivity) lower

private def rounded (mantissa : Nat) (power : Int) (accuracy : Accuracy) : Nat :=
  (ExtendedMantissa.ofMantissaAndAccuracy mantissa accuracy >>>
    (target mantissa power - power).toNat).roundedMantissa

private theorem le_rounded (known : Approximates mantissa power accuracy v)
    (precise : power ≤ target mantissa power) (normal : target mantissa power ≠ -1074) :
    hiddenBit ≤ rounded mantissa power accuracy := by
  refine (known.shifted precise).le_roundedMantissa ?_
  rw [le_div_iff₀ (by positivity)]
  refine le_trans (le_of_eq ?_) (known.le precise normal)
  rw [zpow_add₀ (by norm_num), mul_comm]
  norm_num [hiddenBit]

private theorem rounded_le (known : Approximates mantissa power accuracy v)
    (precise : power ≤ target mantissa power) :
    rounded mantissa power accuracy ≤ 2 * hiddenBit := by
  refine (known.shifted precise).roundedMantissa_le ?_
  rw [div_le_iff₀ (by positivity)]
  refine known.lt.le.trans (le_of_eq ?_)
  rw [zpow_add₀ (by norm_num), mul_comm]
  norm_num [hiddenBit]

private theorem bounds_rounded (known : Approximates mantissa power accuracy v)
    (precise : power ≤ target mantissa power) {n : Nat} {e : Int} (below : n < 2 * hiddenBit)
    (least : -1074 ≤ e) :
    (v ≤ n * 2 ^ e →
        rounded mantissa power accuracy * 2 ^ target mantissa power ≤ (n * 2 ^ e : ℚ)) ∧
      (n * 2 ^ e ≤ v →
        (n * 2 ^ e : ℚ) ≤ rounded mantissa power accuracy * 2 ^ target mantissa power) := by
  have unit : (0 : ℚ) < 2 ^ target mantissa power := by positivity
  rcases le_or_gt (target mantissa power) e with coarse | fine
  · -- The bound counts whole units of the last place.
    have whole : (n * 2 ^ e : ℚ) =
        (n * 2 ^ (e - target mantissa power).toNat : Nat) * 2 ^ target mantissa power := by
      push_cast
      rw [mul_assoc, ← zpow_natCast, ← zpow_add₀ (by norm_num), Int.toNat_of_nonneg (by omega),
        sub_add_cancel]
    rw [whole]
    constructor
    · intro atMost
      refine mul_le_mul_of_nonneg_right (Nat.cast_le.mpr ?_) unit.le
      exact (known.shifted precise).roundedMantissa_le ((div_le_iff₀ unit).mpr atMost)
    · intro atLeast
      refine mul_le_mul_of_nonneg_right (Nat.cast_le.mpr ?_) unit.le
      exact (known.shifted precise).le_roundedMantissa ((le_div_iff₀ unit).mpr atLeast)
  · -- The bound is less than every number with the exponent of the result.
    have normal : target mantissa power ≠ -1074 := by omega
    have small : (n * 2 ^ e : ℚ) < 2 ^ (target mantissa power + 52) :=
      mul_pow_lt below (by omega)
    constructor
    · intro atMost
      exact absurd (small.trans_le (known.le precise normal)) (not_lt.mpr atMost)
    · intro _
      exact small.le.trans (pow_le_mul_pow (le_rounded known precise normal) le_rfl)

private theorem exists_roundWithAccuracy_eq (known : Approximates mantissa power accuracy v)
    (precise : power ≤ target mantissa power) (negative : Bool) :
    ∃ significand exponent, IsRounded significand exponent ∧
      roundWithAccuracy .binary64 (signOf negative) mantissa power accuracy =
        (Value.finite negative significand exponent).operand ∧
      (significand * 2 ^ exponent : ℚ) =
        rounded mantissa power accuracy * 2 ^ target mantissa power := by
  have least : -1074 ≤ target mantissa power := le_max_right _ _
  have upper := rounded_le known precise
  have normal : hiddenBit ≤ rounded mantissa power accuracy ∨ target mantissa power = -1074 :=
    or_iff_not_imp_right.mpr (le_rounded known precise)
  have opened : roundWithAccuracy .binary64 (signOf negative) mantissa power accuracy =
      let shifted := shiftToTargetExponent .binary64 (rounded mantissa power accuracy)
        (target mantissa power) .exact
      if zero : shifted.1.mantissa = 0 then .zero (signOf negative)
      else .finite (signOf negative) shifted.1.mantissa shifted.2 (Nat.pos_of_ne_zero zero) := by
    rw [roundWithAccuracy, shiftToTargetExponent_eq accuracy precise]
    rfl
  rw [opened]
  generalize rounded mantissa power accuracy = n at upper normal
  generalize target mantissa power = e at least normal
  rcases upper.eq_or_lt with rfl | below
  · refine ⟨hiddenBit, e + 1, ⟨by decide, by omega, Or.inl le_rfl⟩, ?_, ?_⟩
    · rw [shiftToTargetExponent_carry least]
      rfl
    · rw [zpow_add_one₀ (by norm_num)]
      push_cast
      ring
  · have isRounded : IsRounded n e := ⟨below, least, normal⟩
    refine ⟨n, e, isRounded, ?_, rfl⟩
    rcases Nat.eq_zero_or_pos n with rfl | positive
    · obtain rfl : e = -1074 := normal.resolve_left (by decide)
      rfl
    · rw [isRounded.shiftToTargetExponent_eq positive]
      rfl

end Rounding

/-- Packing gives an infinity if the exponent is too large for the fields of a number. -/
theorem decode_pack_operand (negative : Bool) {significand : Nat} {exponent : Int}
    (isRounded : IsRounded significand exponent) :
    decode (.ofModel (.pack (Value.finite negative significand exponent).operand)) =
      if exponent ≤ 971 then .finite negative significand exponent else .infinite negative := by
  obtain ⟨below, least, leading⟩ := isRounded
  rcases Nat.eq_zero_or_pos significand with rfl | positive
  · obtain rfl : exponent = -1074 := leading.resolve_left (by decide)
    cases negative <;> decide
  · have opened : (Value.finite negative significand exponent).operand =
        .finite (signOf negative) significand exponent positive := dif_neg positive.ne'
    split_ifs with fits
    · exact decode_pack ⟨below, least, fits, leading⟩ positive opened
    · have packed : Float.Model.pack (.finite (signOf negative) significand exponent positive) =
          Float.Model.pack (.infinity (signOf negative)) := by
        have full : 2 ^ Format.binary64.exponentBits ≤
            (exponent + (Format.binary64.exponentBias : Int) +
              (Format.binary64.mantissaBitsWithoutImplicit : Int)).toNat + 1 := by
          change 2048 ≤ (exponent + 1023 + 52).toNat + 1
          omega
        simp only [Float.Model.pack, UnpackedFloat.pack, if_pos full]
      rw [opened, packed]
      cases negative <;> decide

private theorem IsRounded.exponent_le {significand : Nat} {exponent : Int}
    (isRounded : IsRounded significand exponent)
    (small : (significand * 2 ^ exponent : ℚ) < overflow) : exponent ≤ 971 := by
  by_contra large
  have reached : overflow ≤ significand * 2 ^ exponent := by
    rw [overflow]
    exact pow_le_mul_pow (isRounded.leading.resolve_right (by omega)) (by omega)
  exact absurd small (not_lt.mpr reached)

/-- What a mantissa is rounded to and packed as is what the number is rounded to that it has been
cut off from. -/
theorem rounds_roundWithAccuracy {mantissa : Nat} {power : Int} {accuracy : Accuracy} {v : ℚ}
    (known : Approximates mantissa power accuracy v) (precise : power ≤ target mantissa power)
    (negative : Bool) :
    Rounds ((if negative then -1 else 1) * v) (decode (.ofModel (.pack
      (roundWithAccuracy .binary64 (signOf negative) mantissa power accuracy)))) := by
  obtain ⟨significand, exponent, isRounded, result, same⟩ :=
    exists_roundWithAccuracy_eq known precise negative
  have nonneg := known.nonneg
  have magnitude : (0 : ℚ) ≤ significand * 2 ^ exponent := by positivity
  have above (r : ℚ) (fits : Fits r) (atMost : v ≤ |r|) :
      significand * 2 ^ exponent ≤ |r| ∧ exponent ≤ 971 := by
    obtain ⟨small, n, e, below, least, size⟩ := fits
    rw [size] at atMost small ⊢
    have kept := (bounds_rounded known precise below least).1 atMost
    rw [← same] at kept
    exact ⟨kept, isRounded.exponent_le (kept.trans_lt small)⟩
  have below (r : ℚ) (fits : Fits r) (atLeast : |r| ≤ v) : |r| ≤ significand * 2 ^ exponent := by
    obtain ⟨-, n, e, below, least, size⟩ := fits
    rw [size] at atLeast ⊢
    rw [same]
    exact (bounds_rounded known precise below least).2 atLeast
  rw [result, decode_pack_operand negative isRounded]
  cases negative with
  | false =>
      rw [if_neg Bool.false_ne_true, one_mul]
      constructor
      · intro bound fits atLeast
        split_ifs
        · rw [AtLeast, Value.rational, if_neg Bool.false_ne_true, one_mul]
          rcases le_total bound 0 with negative | positive
          · exact negative.trans magnitude
          · rw [← abs_of_nonneg positive] at atLeast ⊢
            exact below bound fits atLeast
        · rfl
      · intro bound fits atMost
        obtain ⟨kept, small⟩ := above bound fits (atMost.trans (le_abs_self bound))
        rw [abs_of_nonneg (nonneg.trans atMost)] at kept
        rw [if_pos small, AtMost, Value.rational, if_neg Bool.false_ne_true, one_mul]
        exact kept
  | true =>
      rw [if_pos rfl, neg_one_mul]
      constructor
      · intro bound fits atLeast
        have size : |bound| = -bound := abs_of_nonpos (by linarith)
        obtain ⟨kept, small⟩ := above bound fits (by linarith)
        rw [if_pos small, AtLeast, Value.rational, if_pos rfl, neg_one_mul]
        linarith
      · intro bound fits atMost
        split_ifs
        · rw [AtMost, Value.rational, if_pos rfl, neg_one_mul]
          rcases le_total bound 0 with negative | positive
          · have size : |bound| = -bound := abs_of_nonpos negative
            have kept := below bound fits (by linarith)
            linarith
          · linarith
        · rfl

end Binary64
end PlaneRegion
