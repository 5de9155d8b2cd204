import PlaneRegion.Proofs.Binary64.Enclosure

/-!
# Operations on finite numbers

Sums, differences, products and quotients of finite numbers are rounded from the exact ones.
-/

namespace PlaneRegion
namespace Binary64

open Float.Model Float.Model.UnpackedFloat

/-! ## Operands -/

private theorem rounds_operand (negative : Bool) {significand : Nat} {exponent : Int}
    (held : IsHeld significand exponent) :
    Rounds (Value.finite negative significand exponent).rational
      (decode (.ofModel (.pack (Value.finite negative significand exponent).operand))) := by
  rw [decode_pack_operand negative held.isRounded, if_pos held.greatest]
  exact rounds_rational negative significand exponent

theorem rounds_zero (sign : Sign) : Rounds 0 (decode (.ofModel (.pack (.zero sign)))) := by
  have held : IsHeld 0 (-1074) := ⟨by decide, by decide, by decide, Or.inr rfl⟩
  have zero := rounds_operand (sign == .negative) held
  have value : (Value.finite (sign == .negative) 0 (-1074)).rational = 0 := by simp [Value.rational]
  rw [value] at zero
  cases sign <;> exact zero

theorem rational_eq {x : Float} {value : Value} (decoded : decode x = value) :
    rational x = value.rational :=
  congrArg Value.rational decoded

private theorem rounds_round (negative : Bool) {mantissa : Nat} (positive : 0 < mantissa)
    (exponent : Int) :
    Rounds ((if negative then -1 else 1) * (mantissa * 2 ^ exponent))
      (decode (.ofModel
        (.pack (UnpackedFloat.round .binary64 (signOf negative) mantissa exponent)))) := by
  obtain ⟨shift, shift_eq⟩ : ∃ shift, shift = (exponent - target mantissa exponent).toNat :=
    ⟨_, rfl⟩
  have same : (mantissa * 2 ^ exponent : ℚ) =
      (mantissa <<< shift : Nat) * 2 ^ (exponent - shift) := by
    rw [Nat.shiftLeft_eq, zpow_sub₀ (by norm_num), zpow_natCast]
    push_cast
    field_simp
  have width : (mantissa <<< shift).log2 = mantissa.log2 + shift := by
    rw [Nat.log2_eq_iff (by rw [Nat.shiftLeft_eq]; positivity), Nat.shiftLeft_eq]
    have lower := Nat.log2_self_le positive.ne'
    have upper := Nat.lt_log2_self (n := mantissa)
    constructor
    · rw [Nat.pow_add]
      exact Nat.mul_le_mul_right _ lower
    · rw [show mantissa.log2 + shift + 1 = mantissa.log2 + 1 + shift by omega, Nat.pow_add]
      exact Nat.mul_lt_mul_of_pos_right upper (by positivity)
  have precise : exponent - shift ≤ target (mantissa <<< shift) (exponent - shift) := by
    rw [target] at shift_eq ⊢
    rw [width]
    omega
  have rounds := rounds_roundWithAccuracy (approximates_exact _ _) precise negative
  rw [← same] at rounds
  rw [UnpackedFloat.round, targetExponent_eq, decreaseExponent, ← shift_eq]
  exact rounds

private theorem rounds_normalize (mantissa exponent : Int) (zeroSign : Sign) :
    Rounds (mantissa * 2 ^ exponent)
      (decode (.ofModel
        (.pack (UnpackedFloat.normalize .binary64 mantissa exponent zeroSign)))) := by
  rcases lt_trichotomy mantissa 0 with negative | rfl | positive
  · have rounds := rounds_round true (by omega : 0 < (-mantissa).toNat) exponent
    have size : (((-mantissa).toNat : Nat) : ℚ) = -mantissa := by
      exact_mod_cast Int.toNat_of_nonneg (by omega)
    rw [if_pos rfl, size, neg_one_mul, neg_mul, neg_neg] at rounds
    rw [UnpackedFloat.normalize, compare_lt_iff_lt.mpr negative]
    exact rounds
  · rw [Int.cast_zero, zero_mul]
    exact rounds_zero zeroSign
  · have rounds := rounds_round false (by omega : 0 < mantissa.toNat) exponent
    have size : ((mantissa.toNat : Nat) : ℚ) = mantissa := by
      exact_mod_cast Int.toNat_of_nonneg (by omega)
    rw [if_neg Bool.false_ne_true, size, one_mul] at rounds
    rw [UnpackedFloat.normalize, compare_gt_iff_gt.mpr positive]
    exact rounds

/-! ## Sums and differences -/

/-- A significand in units of a smaller power of two. -/
theorem shiftLeft_mul_pow (significand : Nat) {exponent least : Int}
    (atMost : least ≤ exponent) :
    ((significand <<< (exponent - least).toNat : Nat) : ℚ) * 2 ^ least =
      significand * 2 ^ exponent := by
  rw [Nat.shiftLeft_eq]
  push_cast
  rw [mul_assoc, ← zpow_natCast, ← zpow_add₀ (by norm_num), Int.toNat_of_nonneg (by omega),
    sub_add_cancel]

private theorem apply_signOf (negative : Bool) (n : Int) :
    (((signOf negative).apply n : Int) : ℚ) = (if negative then -1 else 1) * n := by
  cases negative <;> simp [signOf, Sign.apply]

private theorem rounds_add_operands (negative₁ negative₂ : Bool) {m₁ m₂ : Nat} {e₁ e₂ : Int}
    (held₁ : IsHeld m₁ e₁) (held₂ : IsHeld m₂ e₂) :
    Rounds ((Value.finite negative₁ m₁ e₁).rational + (Value.finite negative₂ m₂ e₂).rational)
      (decode (.ofModel (.pack (UnpackedFloat.add .binary64
        (Value.finite negative₁ m₁ e₁).operand (Value.finite negative₂ m₂ e₂).operand)))) := by
  have zero (negative : Bool) (e : Int) : (Value.finite negative 0 e).rational = 0 := by
    simp [Value.rational]
  rcases Nat.eq_zero_or_pos m₁ with rfl | positive₁
  · rw [zero, zero_add]
    rcases Nat.eq_zero_or_pos m₂ with rfl | positive₂
    · rw [zero]
      cases negative₁ <;> cases negative₂ <;> exact rounds_zero _
    · have opened : UnpackedFloat.add .binary64 (Value.finite negative₁ 0 e₁).operand
          (Value.finite negative₂ m₂ e₂).operand = (Value.finite negative₂ m₂ e₂).operand := by
        simp only [Value.operand, dif_neg positive₂.ne', dif_pos, UnpackedFloat.add]
      rw [opened]
      exact rounds_operand negative₂ held₂
  · rcases Nat.eq_zero_or_pos m₂ with rfl | positive₂
    · have opened : UnpackedFloat.add .binary64 (Value.finite negative₁ m₁ e₁).operand
          (Value.finite negative₂ 0 e₂).operand = (Value.finite negative₁ m₁ e₁).operand := by
        simp only [Value.operand, dif_neg positive₁.ne', dif_pos, UnpackedFloat.add]
      rw [opened, zero, add_zero]
      exact rounds_operand negative₁ held₁
    · have rounds := rounds_normalize
        ((signOf negative₁).apply (m₁ <<< (e₁ - min e₁ e₂).toNat : Nat) +
          (signOf negative₂).apply (m₂ <<< (e₂ - min e₁ e₂).toNat : Nat)) (min e₁ e₂) .positive
      rw [Int.cast_add, add_mul, apply_signOf, apply_signOf, mul_assoc, mul_assoc, Int.cast_natCast,
        Int.cast_natCast, shiftLeft_mul_pow m₁ (min_le_left e₁ e₂),
        shiftLeft_mul_pow m₂ (min_le_right e₁ e₂)] at rounds
      simp only [Value.operand, dif_neg positive₁.ne', dif_neg positive₂.ne']
      exact rounds

theorem rounds_add {x y : Float} (finiteX : x.isFinite = true) (finiteY : y.isFinite = true) :
    Rounds (rational x + rational y) (decode (x + y)) := by
  obtain ⟨negative₁, m₁, e₁, first⟩ := isFinite_iff.mp finiteX
  obtain ⟨negative₂, m₂, e₂, second⟩ := isFinite_iff.mp finiteY
  have rounds := rounds_add_operands negative₁ negative₂ (isHeld_of_decode first)
    (isHeld_of_decode second)
  rw [← first, ← second, ← unpack_eq_operand, ← unpack_eq_operand] at rounds
  exact rounds

private theorem sub_eq_add_negated (a b : UnpackedFloat) :
    a.sub .binary64 b = a.add .binary64 b.neg := by
  cases a with
  | notANumber => cases b <;> rfl
  | infinity sign => cases b <;> rfl
  | zero sign => cases b <;> rfl
  | finite sign mantissa exponent positive =>
      cases b with
      | finite other mantissa' exponent' positive' =>
          have apply_neg (n : Int) : (-other).apply n = -other.apply n := by
            cases other
            · exact (neg_neg n).symm
            · rfl
          simp only [UnpackedFloat.sub, UnpackedFloat.add, UnpackedFloat.neg, apply_neg,
            Int.sub_eq_add_neg]
      | _ => rfl

theorem rounds_sub {x y : Float} (finiteX : x.isFinite = true) (finiteY : y.isFinite = true) :
    Rounds (rational x - rational y) (decode (x - y)) := by
  obtain ⟨negative₁, m₁, e₁, first⟩ := isFinite_iff.mp finiteX
  obtain ⟨negative₂, m₂, e₂, second⟩ := isFinite_iff.mp finiteY
  have rounds := rounds_add_operands negative₁ (!negative₂) (isHeld_of_decode first)
    (isHeld_of_decode second)
  have negated : (Value.finite (!negative₂) m₂ e₂).operand = y.toModel.unpack.neg := by
    rw [unpack_eq_operand, second]
    by_cases zero : m₂ = 0 <;> cases negative₂ <;>
      simp only [Value.operand, zero, dite_true, dite_false] <;> rfl
  have value : (Value.finite (!negative₂) m₂ e₂).rational = -rational y := by
    rw [rational_eq second]
    cases negative₂ <;> simp [Value.rational]
  rw [negated, value, ← first, ← unpack_eq_operand, ← sub_eq_add_negated, ← sub_eq_add_neg]
    at rounds
  exact rounds

/-! ## Products and quotients -/

private theorem signOf_mul (negative₁ negative₂ : Bool) :
    signOf negative₁ * signOf negative₂ = signOf (negative₁ != negative₂) := by
  cases negative₁ <;> cases negative₂ <;> rfl

private theorem signOf_div (negative₁ negative₂ : Bool) :
    signOf negative₁ / signOf negative₂ = signOf (negative₁ != negative₂) := by
  cases negative₁ <;> cases negative₂ <;> rfl

private theorem precise_mul {m₁ m₂ : Nat} {e₁ e₂ : Int} (held₁ : IsHeld m₁ e₁)
    (held₂ : IsHeld m₂ e₂) (positive₁ : 0 < m₁) (positive₂ : 0 < m₂) :
    e₁ + e₂ ≤ target (m₁ * m₂) (e₁ + e₂) := by
  rcases held₁.leading with wide | rfl
  · exact le_target_of_wide (wide.trans (Nat.le_mul_of_pos_right m₁ positive₂)) _
  rcases held₂.leading with wide | rfl
  · exact le_target_of_wide (wide.trans (Nat.le_mul_of_pos_left m₂ positive₁)) _
  · exact le_trans (by decide) (le_max_right _ _)

private theorem mul_eq_pack (x y : Float) :
    x * y =
      .ofModel (.pack (UnpackedFloat.mul .binary64 (decode x).operand (decode y).operand)) := by
  rw [← unpack_eq_operand, ← unpack_eq_operand]
  rfl

theorem rounds_mul {x y : Float} (finiteX : x.isFinite = true) (finiteY : y.isFinite = true) :
    Rounds (rational x * rational y) (decode (x * y)) := by
  obtain ⟨negative₁, m₁, e₁, first⟩ := isFinite_iff.mp finiteX
  obtain ⟨negative₂, m₂, e₂, second⟩ := isFinite_iff.mp finiteY
  rw [mul_eq_pack, first, second, rational_eq first, rational_eq second]
  rcases Nat.eq_zero_or_pos m₁ with rfl | positive₁
  · simp only [Value.operand, Value.rational, dite_true, Nat.cast_zero, zero_mul, mul_zero]
    split_ifs <;> exact rounds_zero _
  · rcases Nat.eq_zero_or_pos m₂ with rfl | positive₂
    · simp only [Value.operand, Value.rational, dite_true, dif_neg positive₁.ne', Nat.cast_zero,
        zero_mul, mul_zero]
      exact rounds_zero _
    · have rounds := rounds_roundWithAccuracy (approximates_exact (m₁ * m₂) (e₁ + e₂))
        (precise_mul (isHeld_of_decode first) (isHeld_of_decode second) positive₁ positive₂)
        (negative₁ != negative₂)
      have value : (Value.finite negative₁ m₁ e₁).rational *
          (Value.finite negative₂ m₂ e₂).rational =
            (if negative₁ != negative₂ then -1 else 1) * ((m₁ * m₂ : Nat) * 2 ^ (e₁ + e₂)) := by
        rw [zpow_add₀ (by norm_num)]
        push_cast
        cases negative₁ <;> cases negative₂ <;> simp [Value.rational] <;> ring
      simp only [Value.operand, dif_neg positive₁.ne', dif_neg positive₂.ne', UnpackedFloat.mul,
        signOf_mul]
      rw [value]
      exact rounds

private theorem div_eq_pack (x y : Float) :
    x / y =
      .ofModel (.pack (UnpackedFloat.div .binary64 (decode x).operand (decode y).operand)) := by
  rw [← unpack_eq_operand, ← unpack_eq_operand]
  rfl

theorem rounds_div {x y : Float} (finiteX : x.isFinite = true) (finiteY : y.isFinite = true)
    (nonzero : rational y ≠ 0) : Rounds (rational x / rational y) (decode (x / y)) := by
  obtain ⟨negative₁, m₁, e₁, first⟩ := isFinite_iff.mp finiteX
  obtain ⟨negative₂, m₂, e₂, second⟩ := isFinite_iff.mp finiteY
  rw [rational_eq second] at nonzero
  have positive₂ : 0 < m₂ := by
    refine Nat.pos_of_ne_zero fun zero => nonzero ?_
    simp [Value.rational, zero]
  rw [div_eq_pack, first, second, rational_eq first, rational_eq second]
  rcases Nat.eq_zero_or_pos m₁ with rfl | positive₁
  · simp only [Value.operand, Value.rational, dite_true, dif_neg positive₂.ne', Nat.cast_zero,
      zero_mul, mul_zero, zero_div]
    exact rounds_zero _
  · obtain ⟨mantissa, power, accuracy, core, known, precise⟩ :=
      approximates_divCore positive₁ positive₂ e₁ e₂
    have rounds := rounds_roundWithAccuracy known precise (negative₁ != negative₂)
    have value : (Value.finite negative₁ m₁ e₁).rational /
        (Value.finite negative₂ m₂ e₂).rational =
          (if negative₁ != negative₂ then -1 else 1) * (m₁ * 2 ^ e₁ / (m₂ * 2 ^ e₂)) := by
      cases negative₁ <;> cases negative₂ <;>
        simp [Value.rational, neg_div, div_neg]
    simp only [Value.operand, dif_neg positive₁.ne', dif_neg positive₂.ne', UnpackedFloat.div,
      signOf_div, core]
    rw [value]
    exact rounds

/-- A quotient by an infinity vanishes. -/
theorem rational_div_of_isInf {x y : Float} (finite : x.isFinite = true)
    (infinite : y.isInf = true) :
    (x / y).isFinite = true ∧ rational (x / y) = 0 := by
  obtain ⟨negative₁, m, e, first⟩ := isFinite_iff.mp finite
  obtain ⟨negative₂, second⟩ := isInf_iff.mp infinite
  have opened : x / y = .ofModel (.pack (.zero (signOf negative₁ / signOf negative₂))) := by
    rw [div_eq_pack, first, second, Value.operand]
    split_ifs <;> rfl
  have rounds := rounds_zero (signOf negative₁ / signOf negative₂)
  rw [← opened] at rounds
  obtain ⟨finite, bounds⟩ := rounds.between fits_zero fits_zero le_rfl le_rfl
  exact ⟨finite, le_antisymm bounds.2 bounds.1⟩

end Binary64
end PlaneRegion
