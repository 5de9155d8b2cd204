import Mathlib
import PlaneRegion.Binary64.Basic

/-!
# Fields of binary64 numbers

Arithmetic works on the same sign, significand and exponent that are read from the fields of a
number, so whatever is known of the fields is known of the operands.
-/

namespace PlaneRegion
namespace Binary64

open Float.Model Float.Model.UnpackedFloat

/-- The sign of a value in arithmetic. -/
def signOf (negative : Bool) : Sign :=
  if negative then .negative else .positive

/-- The operand that a value is in arithmetic. -/
def Value.operand : Value → UnpackedFloat
  | .finite negative significand exponent =>
      if zero : significand = 0 then .zero (signOf negative)
      else .finite (signOf negative) significand exponent (Nat.pos_of_ne_zero zero)
  | .infinite negative => .infinity (signOf negative)
  | .undefined => .notANumber

/-- The significands and exponents that the fields of a number can hold. -/
structure IsHeld (significand : Nat) (exponent : Int) : Prop where
  below : significand < 2 * hiddenBit
  least : -1074 ≤ exponent
  greatest : exponent ≤ 971
  /-- Only the least exponent goes with a significand without its leading bit. -/
  leading : hiddenBit ≤ significand ∨ exponent = -1074

theorem toNat_unpackMantissa (b : BitVec Format.binary64.numBits) :
    (unpackMantissa b).toNat = b.toNat % hiddenBit := by
  rw [unpackMantissa, BitVec.toNat_cast, BitVec.extractLsb, BitVec.extractLsb'_toNat]
  rfl

theorem toNat_unpackExponent (b : BitVec Format.binary64.numBits) :
    (unpackExponent b).toNat = b.toNat / hiddenBit % 2048 := by
  rw [unpackExponent, BitVec.toNat_cast, BitVec.extractLsb, BitVec.extractLsb'_toNat,
    Nat.shiftRight_eq_div_pow]
  rfl

theorem ofBitVec_unpackSign (b : BitVec Format.binary64.numBits) :
    Sign.ofBitVec (unpackSign b) = signOf (decide (signBit ≤ b.toNat)) := by
  have bound : b.toNat < 2 * signBit := b.isLt
  have bit : (unpackSign b).toNat = b.toNat / signBit % 2 := by
    rw [unpackSign, BitVec.toNat_cast, BitVec.extractLsb, BitVec.extractLsb'_toNat,
      Nat.shiftRight_eq_div_pow]
    rfl
  have zero : unpackSign b = 0#1 ↔ b.toNat < signBit := by
    rw [← BitVec.toNat_inj, bit]
    simp only [signBit, BitVec.toNat_ofNat] at *
    omega
  simp only [Sign.ofBitVec, signOf, decide_eq_true_eq, zero]
  split_ifs with h1 h2 <;> first | rfl | omega

theorem unpackExponent_eq_iff {b : BitVec Format.binary64.numBits} {field : BitVec 11} :
    unpackExponent b = field ↔ b.toNat / hiddenBit % 2048 = field.toNat := by
  rw [← BitVec.toNat_inj, toNat_unpackExponent]

theorem unpackMantissa_eq_zero_iff {b : BitVec Format.binary64.numBits} :
    unpackMantissa b = 0#_ ↔ b.toNat % hiddenBit = 0 := by
  rw [← BitVec.toNat_inj, toNat_unpackMantissa]
  rfl

theorem toNat_one_append_unpackMantissa (b : BitVec Format.binary64.numBits) :
    (1#1 ++ unpackMantissa b).toNat = hiddenBit + b.toNat % hiddenBit := by
  rw [BitVec.toNat_append, ← Nat.shiftLeft_add_eq_or_of_lt (BitVec.isLt _), toNat_unpackMantissa]
  rfl

/-- Arithmetic works on the value that is read from the fields. -/
theorem unpack_eq_operand (x : Float) : x.toModel.unpack = (decode x).operand := by
  obtain ⟨b, fields⟩ : ∃ b : BitVec Format.binary64.numBits, x.toModel.toBits.toBitVec = b :=
    ⟨_, rfl⟩
  have whole : x.toBits.toNat = b.toNat := congrArg BitVec.toNat fields
  have opened : x.toModel.unpack = UnpackedFloat.unpack .binary64 b :=
    congrArg (UnpackedFloat.unpack .binary64) fields
  rw [opened, UnpackedFloat.unpack, decode]
  simp only [ofBitVec_unpackSign, whole]
  by_cases full : b.toNat / hiddenBit % 2048 = 2047
  · rw [if_pos (unpackExponent_eq_iff.mpr full), if_pos full]
    by_cases plain : b.toNat % hiddenBit = 0
    · rw [if_pos (unpackMantissa_eq_zero_iff.mpr plain), if_pos plain]
      rfl
    · rw [if_neg (mt unpackMantissa_eq_zero_iff.mp plain), if_neg plain]
      rfl
  · rw [if_neg (mt unpackExponent_eq_iff.mp full), if_neg full]
    by_cases empty : b.toNat / hiddenBit % 2048 = 0
    · rw [if_pos (unpackExponent_eq_iff.mpr empty), if_pos empty]
      by_cases plain : b.toNat % hiddenBit = 0
      · rw [dif_pos (unpackMantissa_eq_zero_iff.mpr plain), Value.operand, dif_pos plain]
      · rw [dif_neg (mt unpackMantissa_eq_zero_iff.mp plain), Value.operand, dif_neg plain]
        simp only [toNat_unpackMantissa, toNat_unpackExponent, empty]
        rfl
    · have positive : hiddenBit + b.toNat % hiddenBit ≠ 0 := by
        simp only [hiddenBit]
        omega
      rw [if_neg (mt unpackExponent_eq_iff.mp empty), if_neg empty, Value.operand, dif_neg positive]
      rw [UnpackedFloat.finite.injEq, toNat_unpackExponent]
      exact ⟨rfl, toNat_one_append_unpackMantissa b, rfl⟩

/-- The fields of a number hold what is read from them. -/
theorem isHeld_of_decode {x : Float} {negative : Bool} {significand : Nat} {exponent : Int}
    (decoded : decode x = .finite negative significand exponent) : IsHeld significand exponent := by
  have bound : x.toBits.toNat % hiddenBit < hiddenBit := Nat.mod_lt _ (by decide)
  have field : x.toBits.toNat / hiddenBit % 2048 < 2048 := Nat.mod_lt _ (by decide)
  unfold decode at decoded
  simp only at decoded
  split_ifs at decoded with full fraction empty
  · cases decoded
    exact ⟨by omega, by decide, by decide, Or.inr rfl⟩
  · cases decoded
    exact ⟨by omega, by omega, by omega, Or.inl (by omega)⟩

/-! ## Kinds of numbers -/

theorem isNaN_iff {x : Float} : x.isNaN = true ↔ decode x = .undefined := by
  change x.toModel.unpack.isNaN = true ↔ _
  rw [unpack_eq_operand]
  cases decode x with
  | finite negative significand exponent =>
      simp only [Value.operand, reduceCtorEq, iff_false]
      split_ifs <;> exact Bool.false_ne_true
  | infinite negative => simp [Value.operand, UnpackedFloat.isNaN]
  | undefined => simp [Value.operand, UnpackedFloat.isNaN]

theorem isInf_iff {x : Float} : x.isInf = true ↔ ∃ negative, decode x = .infinite negative := by
  change x.toModel.unpack.isInf = true ↔ _
  rw [unpack_eq_operand]
  cases decode x with
  | finite negative significand exponent =>
      simp only [Value.operand, reduceCtorEq, exists_false, iff_false]
      split_ifs <;> exact Bool.false_ne_true
  | infinite negative => simp [Value.operand, UnpackedFloat.isInf]
  | undefined => simp [Value.operand, UnpackedFloat.isInf]

theorem isFinite_iff {x : Float} :
    x.isFinite = true ↔
      ∃ negative significand exponent, decode x = .finite negative significand exponent := by
  change x.toModel.unpack.isFinite = true ↔ _
  rw [unpack_eq_operand]
  cases decode x with
  | finite negative significand exponent =>
      simp only [Value.operand]
      split_ifs <;> simp [UnpackedFloat.isFinite]
  | infinite negative => simp [Value.operand, UnpackedFloat.isFinite]
  | undefined => simp [Value.operand, UnpackedFloat.isFinite]

theorem isFinite_eq_false_iff {x : Float} :
    x.isFinite = false ↔ x.isNaN = true ∨ x.isInf = true := by
  rw [← Bool.not_eq_true, isFinite_iff, isNaN_iff, isInf_iff]
  cases decode x <;> simp

theorem isNaN_of_isFinite {x : Float} (finite : x.isFinite = true) : x.isNaN = false := by
  cases undefined : x.isNaN with
  | false => rfl
  | true =>
      rw [isFinite_eq_false_iff.mpr (Or.inl undefined)] at finite
      cases finite

theorem isInf_of_isFinite {x : Float} (finite : x.isFinite = true) : x.isInf = false := by
  cases infinite : x.isInf with
  | false => rfl
  | true =>
      rw [isFinite_eq_false_iff.mpr (Or.inr infinite)] at finite
      cases finite

/-! ## Undefined operands -/

private theorem unpack_of_isNaN {x : Float} (undefined : x.isNaN = true) :
    x.toModel.unpack = .notANumber := by
  rw [unpack_eq_operand, isNaN_iff.mp undefined]
  rfl

private theorem isNaN_of_eq {u : UnpackedFloat} (undefined : u = .notANumber) :
    (Float.ofModel (.pack u)).isNaN = true := by
  rw [undefined]
  rfl

theorem isNaN_neg {x : Float} (undefined : x.isNaN = true) : (-x).isNaN = true := by
  refine isNaN_of_eq (u := x.toModel.unpack.neg) ?_
  rw [unpack_of_isNaN undefined]
  rfl

theorem isNaN_div {x : Float} (undefined : x.isNaN = true) (y : Float) : (x / y).isNaN = true := by
  refine isNaN_of_eq (u := x.toModel.unpack.div .binary64 y.toModel.unpack) ?_
  rw [unpack_of_isNaN undefined]
  cases y.toModel.unpack <;> rfl

theorem isNaN_mul {y : Float} (undefined : y.isNaN = true) (x : Float) : (x * y).isNaN = true := by
  refine isNaN_of_eq (u := x.toModel.unpack.mul .binary64 y.toModel.unpack) ?_
  rw [unpack_of_isNaN undefined]
  cases x.toModel.unpack <;> rfl

theorem isNaN_sub {y : Float} (undefined : y.isNaN = true) (x : Float) : (x - y).isNaN = true := by
  refine isNaN_of_eq (u := x.toModel.unpack.sub .binary64 y.toModel.unpack) ?_
  rw [unpack_of_isNaN undefined]
  cases x.toModel.unpack <;> rfl

end Binary64
end PlaneRegion
