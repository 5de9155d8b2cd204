import PlaneRegion.Proofs.Binary64.Fields

/-!
# Packing values into numbers

A value whose significand and exponent the fields can hold is packed without loss, so numbers with
the same value are the same, and the value of a packed number is the one that was packed.
-/

namespace PlaneRegion
namespace Binary64

open Float.Model Float.Model.UnpackedFloat

theorem log2_of_leading {significand : Nat} (leading : hiddenBit ≤ significand)
    (below : significand < 2 * hiddenBit) : significand.log2 = 52 := by
  have positive : significand ≠ 0 := by
    rintro rfl
    exact absurd leading (by decide)
  exact (Nat.log2_eq_iff positive).mpr ⟨leading, below⟩

private theorem unpack_normal (sign : Sign) {field significand : Nat} (least : 1 ≤ field)
    (greatest : field ≤ 2046) (leading : hiddenBit ≤ significand)
    (below : significand < 2 * hiddenBit) (positive : 0 < significand) :
    UnpackedFloat.unpack .binary64
      (packComponents .binary64 sign (BitVec.ofNat _ field) (BitVec.ofNat _ significand)) =
        .finite sign significand (field - 1075) positive := by
  have field_eq : (BitVec.ofNat 11 field).toNat = field := by
    rw [BitVec.toNat_ofNat, Nat.mod_eq_of_lt (by omega)]
  have notFull : BitVec.ofNat 11 field ≠ -1#_ := by
    rw [Ne, ← BitVec.toNat_inj, field_eq]
    simp
    omega
  have notEmpty : BitVec.ofNat 11 field ≠ 0#_ := by
    rw [Ne, ← BitVec.toNat_inj, field_eq]
    simp
    omega
  have significand_eq : (1#1 ++ BitVec.ofNat 52 significand).toNat = significand := by
    rw [BitVec.toNat_append, ← Nat.shiftLeft_add_eq_or_of_lt (BitVec.isLt _), BitVec.toNat_ofNat]
    change 1 * hiddenBit + significand % hiddenBit = significand
    simp only [hiddenBit] at *
    omega
  simp only [UnpackedFloat.unpack, unpackExponent_packComponents, unpackMantissa_packComponents,
    unpackSign_packComponents, Sign.ofBitVec_toBitVec, notFull, notEmpty, if_false, field_eq,
    significand_eq]
  rfl

private theorem unpack_subnormal (sign : Sign) {significand : Nat}
    (below : significand < hiddenBit) (positive : 0 < significand) :
    UnpackedFloat.unpack .binary64
      (packComponents .binary64 sign 0#_ (BitVec.ofNat _ significand)) =
        .finite sign significand (-1074) positive := by
  have significand_eq : (BitVec.ofNat 52 significand).toNat = significand := by
    exact (BitVec.toNat_ofNat _ _).trans (Nat.mod_eq_of_lt below)
  have notEmpty : BitVec.ofNat 52 significand ≠ 0#_ := by
    rw [Ne, ← BitVec.toNat_inj, significand_eq]
    simp
    omega
  simp [UnpackedFloat.unpack, unpackExponent_packComponents, unpackMantissa_packComponents,
    unpackSign_packComponents, Sign.ofBitVec_toBitVec, notEmpty, significand_eq]
  rfl

/-- A significand and an exponent that fit the fields are packed without loss. -/
theorem unpack_pack {significand : Nat} {exponent : Int} (held : IsHeld significand exponent)
    (positive : 0 < significand) (sign : Sign) :
    UnpackedFloat.unpack .binary64
      (UnpackedFloat.pack .binary64 (.finite sign significand exponent positive)) =
        .finite sign significand exponent positive := by
  obtain ⟨below, least, greatest, leading⟩ := held
  obtain ⟨field, field_eq⟩ : ∃ field : Nat, (field : Int) = exponent + 1075 :=
    ⟨(exponent + 1075).toNat, Int.toNat_of_nonneg (by omega)⟩
  have biased_eq : (exponent + (Format.binary64.exponentBias : Int) +
      (Format.binary64.mantissaBitsWithoutImplicit : Int)).toNat = field := by
    change (exponent + 1023 + 52).toNat = field
    omega
  have fits : ¬2 ^ Format.binary64.exponentBits ≤ field + 1 := by
    change ¬2048 ≤ field + 1
    omega
  simp only [UnpackedFloat.pack, biased_eq, if_neg fits]
  rcases le_or_gt hiddenBit significand with normal | subnormal
  · have full : significand.log2 + 1 = Format.binary64.mantissaBits := by
      rw [log2_of_leading normal below]
      rfl
    rw [if_pos full, unpack_normal sign (by omega) (by omega) normal below positive]
    simp only [field_eq, add_sub_cancel_right]
  · have short : ¬significand.log2 + 1 = Format.binary64.mantissaBits := by
      have bound : significand.log2 < 52 := (Nat.log2_lt positive.ne').mpr subnormal
      change ¬significand.log2 + 1 = 53
      omega
    obtain rfl : exponent = -1074 := leading.resolve_left (by omega)
    rw [if_neg short, unpack_subnormal sign subnormal positive]

theorem decode_of_unpack {x : Float} {negative : Bool} {significand : Nat} {exponent : Int}
    {positive : 0 < significand}
    (opened : x.toModel.unpack = .finite (signOf negative) significand exponent positive) :
    decode x = .finite negative significand exponent := by
  rw [unpack_eq_operand] at opened
  cases decoded : decode x with
  | finite sign mantissa power =>
      rw [decoded, Value.operand] at opened
      split_ifs at opened with zero
      obtain ⟨sign_eq, rfl, rfl⟩ := UnpackedFloat.finite.inj opened
      cases sign <;> cases negative <;> first | rfl | cases sign_eq
  | infinite sign =>
      rw [decoded] at opened
      cases opened
  | undefined =>
      rw [decoded] at opened
      cases opened

/-- The value of a packed number is the one that was packed. -/
theorem decode_pack {negative : Bool} {significand : Nat} {exponent : Int}
    (held : IsHeld significand exponent) (positive : 0 < significand) {result : UnpackedFloat}
    (known : result = .finite (signOf negative) significand exponent positive) :
    decode (.ofModel (.pack result)) = .finite negative significand exponent := by
  rw [known]
  exact decode_of_unpack (unpack_pack held positive (signOf negative))

/-- Negation changes the sign and nothing else. -/
theorem decode_neg {x : Float} {significand : Nat} {exponent : Int} (positive : 0 < significand)
    (decoded : decode x = .finite false significand exponent) :
    decode (-x) = .finite true significand exponent := by
  have opened : x.toModel.unpack.neg = .finite (signOf true) significand exponent positive := by
    rw [unpack_eq_operand, decoded, Value.operand, dif_neg positive.ne']
    rfl
  exact decode_pack (isHeld_of_decode decoded) positive opened

/-- A number is determined by its value. -/
theorem decode_injective {x y : Float} (same : decode x = decode y) : x = y := by
  have opened : x.toModel.unpack = y.toModel.unpack := by
    rw [unpack_eq_operand, unpack_eq_operand, same]
  have bits := (unpack_inj_of_valid x.toModel.valid y.toModel.valid).mp opened
  exact Float.toBits_inj.mp (UInt64.toBitVec_inj.mp bits)

end Binary64
end PlaneRegion
