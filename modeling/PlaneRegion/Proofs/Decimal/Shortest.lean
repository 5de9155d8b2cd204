import Mathlib.Algebra.Order.Field.Power
import Mathlib.Data.Nat.Log
import Mathlib.Data.Rat.Cast.Order
import Mathlib.Tactic.NormNum
import Mathlib.Tactic.Positivity
import Mathlib.Tactic.Ring
import Mathlib.Tactic.Linarith
import PlaneRegion.Binary64.Text

/-!
# Decimals in the interval of a binary number

The search for the shortest decimal compares whole numbers.  They stand for multiples of a power of
ten and of the unit of an interval, so the decimal that the search ends with lies in the interval.
The last of the grids has steps shorter than half a unit, so the search finds a point.
-/

namespace PlaneRegion
namespace Decimal

/-- The size of a decimal; its sign is left out. -/
def magnitude (d : Decimal) : ℚ :=
  d.digits * 10 ^ d.exponent

namespace Interval

section Reach

variable {α : Type} [LE α] [LT α]

/-- One bound does not exceed the other; the bounds of an open interval differ. -/
def Reaches (interval : Interval) (a b : α) : Prop :=
  if interval.closed then a ≤ b else a < b

instance [DecidableLE α] [DecidableLT α] (interval : Interval) (a b : α) :
    Decidable (interval.Reaches a b) :=
  inferInstanceAs (Decidable (if interval.closed then a ≤ b else a < b))

end Reach

/-- What the bounds of an interval are multiples of. -/
def unit (interval : Interval) : ℚ :=
  interval.unitTop / interval.unitBottom

/-- The numbers of an interval. -/
structure Contains (interval : Interval) (v : ℚ) : Prop where
  lower : interval.Reaches (interval.lower * interval.unit) v
  upper : interval.Reaches v (interval.upper * interval.unit)

/-- The number itself lies strictly between the bounds. -/
structure IsProper (interval : Interval) : Prop where
  lower_lt : interval.lower < interval.centre
  lt_upper : interval.centre < interval.upper
  top_pos : 0 < interval.unitTop
  bottom_pos : 0 < interval.unitBottom

variable {interval : Interval} {k : Int}

theorem reaches_of_lt {a b : ℚ} (lt : a < b) : interval.Reaches a b := by
  unfold Reaches
  split_ifs
  · exact lt.le
  · exact lt

theorem Reaches.le {a b : ℚ} (reaches : interval.Reaches a b) : a ≤ b := by
  unfold Reaches at reaches
  split_ifs at reaches
  · exact reaches
  · exact reaches.le

theorem Reaches.lt {a b : ℚ} (reaches : interval.Reaches a b) (isOpen : interval.closed = false) :
    a < b := by
  rwa [Reaches, isOpen, if_neg Bool.false_ne_true] at reaches

theorem reaches_mul_iff {a b c : ℚ} (positive : 0 < c) :
    interval.Reaches (a * c) (b * c) ↔ interval.Reaches a b := by
  unfold Reaches
  rw [mul_le_mul_iff_left₀ positive, mul_lt_mul_iff_left₀ positive]

theorem IsProper.unit_pos (proper : interval.IsProper) : 0 < interval.unit :=
  div_pos (Nat.cast_pos.mpr proper.top_pos) (Nat.cast_pos.mpr proper.bottom_pos)

/-! ## Comparisons in whole numbers -/

/-- One unit on the grid `10 ^ k`, in whole numbers. -/
def top (interval : Interval) (k : Int) : Nat :=
  interval.unitTop * Nat.pow 10 (-k).toNat

/-- One step of the grid `10 ^ k`, in whole numbers. -/
def bottom (interval : Interval) (k : Int) : Nat :=
  interval.unitBottom * Nat.pow 10 k.toNat

/-- What numbers are multiplied by to compare them in whole numbers. -/
def scale (interval : Interval) (k : Int) : ℚ :=
  interval.unitBottom * 10 ^ (-k).toNat

theorem IsProper.scale_pos (proper : interval.IsProper) : 0 < interval.scale k :=
  mul_pos (Nat.cast_pos.mpr proper.bottom_pos) (by positivity)

theorem pow_mul_scale : (10 : ℚ) ^ k * interval.scale k = interval.bottom k := by
  have powers : (10 : ℚ) ^ k * 10 ^ (-k).toNat = 10 ^ k.toNat := by
    rw [← zpow_natCast, ← zpow_natCast, ← zpow_add₀ (by norm_num)]
    congr 1
    omega
  rw [scale, bottom, mul_left_comm, powers, Nat.cast_mul, Nat.pow_eq, Nat.cast_pow,
    Nat.cast_ofNat]

theorem unit_mul_scale (proper : interval.IsProper) :
    interval.unit * interval.scale k = interval.top k := by
  have nonzero : (interval.unitBottom : ℚ) ≠ 0 := Nat.cast_ne_zero.mpr proper.bottom_pos.ne'
  rw [scale, top, unit, ← mul_assoc, div_mul_cancel₀ _ nonzero, Nat.cast_mul, Nat.pow_eq,
    Nat.cast_pow, Nat.cast_ofNat]

theorem reaches_scaled_iff (proper : interval.IsProper) {v w : ℚ} {a b : Nat}
    (first : v * interval.scale k = a) (second : w * interval.scale k = b) :
    interval.Reaches v w ↔ interval.Reaches a b := by
  rw [← reaches_mul_iff (proper.scale_pos (k := k)), first, second]
  unfold Reaches
  rw [Nat.cast_le, Nat.cast_lt]

theorem point_mul_scale (a : Nat) :
    a * (10 : ℚ) ^ k * interval.scale k = (a * interval.bottom k : Nat) := by
  rw [mul_assoc, pow_mul_scale, Nat.cast_mul]

theorem bound_mul_scale (proper : interval.IsProper) (b : Nat) :
    b * interval.unit * interval.scale k = (b * interval.top k : Nat) := by
  rw [mul_assoc, unit_mul_scale proper, Nat.cast_mul]

/-- The last point of the grid that is not above the number. -/
def below (interval : Interval) (k : Int) : Nat :=
  interval.centre * interval.top k / interval.bottom k

/-- A point next to the number is found on a grid if it lies inside the interval. -/
theorem onGrid_eq (interval : Interval) (k : Int) :
    interval.onGrid k =
      if interval.Reaches (interval.lower * interval.top k)
          (interval.below k * interval.bottom k) then
        if interval.Reaches ((interval.below k + 1) * interval.bottom k)
              (interval.upper * interval.top k) ∧
            2 * interval.centre * interval.top k ≥
              (interval.below k + (interval.below k + 1)) * interval.bottom k then
          some (interval.below k + 1)
        else some (interval.below k)
      else if interval.Reaches ((interval.below k + 1) * interval.bottom k)
          (interval.upper * interval.top k) then
        some (interval.below k + 1)
      else none :=
  rfl

theorem below_le (proper : interval.IsProper) :
    interval.below k * (10 : ℚ) ^ k ≤ interval.centre * interval.unit := by
  rw [← mul_le_mul_iff_left₀ (proper.scale_pos (k := k)), point_mul_scale,
    bound_mul_scale proper, Nat.cast_le]
  exact Nat.div_mul_le_self _ _

theorem lt_above (proper : interval.IsProper) :
    interval.centre * interval.unit < (interval.below k + 1 : Nat) * (10 : ℚ) ^ k := by
  have step : 0 < interval.bottom k := Nat.mul_pos proper.bottom_pos (Nat.pow_pos (by decide))
  rw [← mul_lt_mul_iff_left₀ (proper.scale_pos (k := k)), point_mul_scale,
    bound_mul_scale proper, Nat.cast_lt]
  exact Nat.lt_mul_of_div_lt (Nat.lt_succ_self _) step

theorem contains_below (proper : interval.IsProper)
    (inside : interval.Reaches (interval.lower * interval.top k)
      (interval.below k * interval.bottom k)) :
    interval.Contains (interval.below k * 10 ^ k) where
  lower := (reaches_scaled_iff proper (bound_mul_scale proper _) (point_mul_scale _)).mpr inside
  upper := reaches_of_lt <| (below_le proper).trans_lt <|
    mul_lt_mul_of_pos_right (Nat.cast_lt.mpr proper.lt_upper) proper.unit_pos

theorem contains_above (proper : interval.IsProper)
    (inside : interval.Reaches ((interval.below k + 1) * interval.bottom k)
      (interval.upper * interval.top k)) :
    interval.Contains ((interval.below k + 1 : Nat) * 10 ^ k) where
  lower := reaches_of_lt <| (lt_above proper).trans' <|
    mul_lt_mul_of_pos_right (Nat.cast_lt.mpr proper.lower_lt) proper.unit_pos
  upper := (reaches_scaled_iff proper (point_mul_scale _) (bound_mul_scale proper _)).mpr inside

/-! ## The search -/

/-- A point that is found on a grid lies in the interval. -/
theorem contains_of_onGrid (proper : interval.IsProper) {digits : Nat}
    (found : interval.onGrid k = some digits) : interval.Contains (digits * 10 ^ k) := by
  rw [onGrid_eq] at found
  split_ifs at found with below above above
  · cases found
    exact contains_above proper above.1
  · cases found
    exact contains_below proper below
  · cases found
    exact contains_above proper above

/-- A grid has a point in the interval if its steps are shorter than the part above the number. -/
theorem exists_onGrid (proper : interval.IsProper)
    (fine : (10 : ℚ) ^ k < (interval.upper - interval.centre) * interval.unit) :
    ∃ digits, interval.onGrid k = some digits := by
  have upper : (interval.below k + 1 : Nat) * (10 : ℚ) ^ k < interval.upper * interval.unit := by
    have start := below_le (k := k) proper
    push_cast
    linarith
  have inside := (reaches_scaled_iff proper (point_mul_scale _) (bound_mul_scale proper _)).mp
    (reaches_of_lt upper)
  rw [onGrid_eq]
  split_ifs with below above
  · exact ⟨_, rfl⟩
  · exact ⟨_, rfl⟩
  · exact ⟨_, rfl⟩

end Interval

/-- The search ends in the interval if its last grid is fine enough. -/
theorem contains_coarsest {interval : Interval} (proper : interval.IsProper) (grids : Nat) (k : Int)
    (fine : (10 : ℚ) ^ (k - grids) < (interval.upper - interval.centre) * interval.unit) :
    interval.Contains (coarsest interval (grids + 1) k).magnitude := by
  induction grids generalizing k with
  | zero =>
      obtain ⟨digits, found⟩ := Interval.exists_onGrid proper (by simpa using fine)
      simp only [coarsest, found]
      exact Interval.contains_of_onGrid proper found
  | succ grids induction =>
      rw [coarsest]
      cases found : interval.onGrid k with
      | some digits => exact Interval.contains_of_onGrid proper found
      | none =>
          apply induction
          convert fine using 2
          push_cast
          ring

/-! ## The interval of a binary number -/

variable {significand : Nat} {exponent : Int} {atPower : Bool}

theorem Interval.isProper_around (positive : 0 < significand) :
    (Interval.around significand exponent atPower).IsProper where
  lower_lt := by
    change 4 * significand - (if atPower then 1 else 2) < 4 * significand
    split_ifs <;> omega
  lt_upper := Nat.lt_add_of_pos_right (by decide)
  top_pos := Nat.pow_pos (by decide)
  bottom_pos := Nat.pow_pos (by decide)

theorem Interval.unit_around :
    (Interval.around significand exponent atPower).unit = 2 ^ (exponent - 2) := by
  simp only [Interval.unit, Interval.around, Nat.pow_eq, Nat.cast_pow, Nat.cast_ofNat]
  rw [← zpow_natCast, ← zpow_natCast, ← zpow_sub₀ (by norm_num)]
  congr 1
  omega

theorem zpow_anti {a b : ℚ} {k : Int} (positive : 0 < a) (le : a ≤ b) (fraction : k ≤ 0) :
    b ^ k ≤ a ^ k := by
  obtain ⟨n, rfl⟩ := Int.exists_eq_neg_ofNat fraction
  rw [zpow_neg, zpow_neg, zpow_natCast, zpow_natCast]
  exact inv_anti₀ (by positivity) (pow_le_pow_left₀ positive.le le n)

/-- Comparison of powers of ten and two: three decimal places are less than ten binary ones, and 28
of them more than 93. -/
theorem ten_zpow_lt {k e : Int} (coarse : 0 ≤ k → 10 * k < 3 * e) (fine : k ≤ 0 → 93 * k < 28 * e) :
    (10 : ℚ) ^ k < 2 ^ e := by
  have bases : (1 : ℚ) < 2 := by norm_num
  rcases le_total 0 k with whole | fraction
  · refine lt_of_pow_lt_pow_left₀ 3 (by positivity) ?_
    calc ((10 : ℚ) ^ k) ^ 3 = (10 ^ 3) ^ k := by rw [← zpow_natCast, zpow_comm, zpow_natCast]
      _ ≤ (2 ^ 10) ^ k := zpow_le_zpow_left₀ whole (by norm_num) (by norm_num)
      _ = 2 ^ (10 * k) := by rw [zpow_mul]; norm_cast
      _ < 2 ^ (e * 3) := zpow_lt_zpow_right₀ bases (by have := coarse whole; omega)
      _ = (2 ^ e) ^ 3 := by rw [zpow_mul]; norm_cast
  · refine lt_of_pow_lt_pow_left₀ 28 (by positivity) ?_
    calc ((10 : ℚ) ^ k) ^ 28 = (10 ^ 28) ^ k := by rw [← zpow_natCast, zpow_comm, zpow_natCast]
      _ ≤ (2 ^ 93) ^ k := zpow_anti (by norm_num) (by norm_num) fraction
      _ = 2 ^ (93 * k) := by rw [zpow_mul]; norm_cast
      _ < 2 ^ (e * 28) := zpow_lt_zpow_right₀ bases (by have := fine fraction; omega)
      _ = (2 ^ e) ^ 28 := by rw [zpow_mul]; norm_cast

theorem Interval.topExponent_around (below : significand < 2 * Binary64.hiddenBit) :
    (Interval.around significand exponent atPower).topExponent ≤
      (exponent + 53) * 30103 / 100000 + 2 := by
  have upper : (4 * significand + 2).log2 < 55 := by
    refine (Nat.log2_lt (by omega)).mpr ?_
    simp only [Binary64.hiddenBit] at below
    omega
  simp only [Interval.topExponent, Interval.around, Nat.pow_eq, Nat.log2_two_pow]
  omega

/-- The shortest decimal of a binary number lies in its interval. -/
theorem contains_shortest (positive : 0 < significand)
    (below : significand < 2 * Binary64.hiddenBit) (least : -1074 ≤ exponent)
    (greatest : exponent ≤ 971) :
    (Interval.around significand exponent atPower).Contains
      (shortest significand exponent atPower).magnitude := by
  refine contains_coarsest (Interval.isProper_around positive) 21 _ ?_
  have top : (Interval.around significand exponent atPower).topExponent ≤ _ :=
    Interval.topExponent_around below
  have half : (((Interval.around significand exponent atPower).upper : ℚ) -
      (Interval.around significand exponent atPower).centre) *
        (Interval.around significand exponent atPower).unit = 2 ^ (exponent - 1) := by
    rw [Interval.unit_around, show exponent - 1 = exponent - 2 + 1 by ring,
      zpow_add_one₀ (by norm_num)]
    simp only [Interval.around]
    push_cast
    ring
  rw [half]
  apply ten_zpow_lt
  · intro
    push_cast
    omega
  · intro
    push_cast
    omega

end Decimal
end PlaneRegion
