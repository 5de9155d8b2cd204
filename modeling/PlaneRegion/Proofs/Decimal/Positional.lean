import Mathlib.Data.List.TakeDrop
import PlaneRegion.Binary64.Text
import PlaneRegion.Proofs.Decimal.Shortest
import PlaneRegion.Proofs.Term.Numeral

/-!
# Decimals in positional notation

A decimal in positional notation is a numeral of the same value: the zeros that fill its places
change neither the digits nor the power of ten, and a point moves a power of ten to the places
behind it.
-/

namespace PlaneRegion
namespace Decimal

open Term (SignText NumeralText)

/-- The two decimals are the same number. -/
structure SameValue (first second : Decimal) : Prop where
  negative : first.negative = second.negative
  magnitude : first.magnitude = second.magnitude

theorem signText_written (negative : Bool) : SignText (signText negative) negative := by
  cases negative with
  | false => exact .missing
  | true => exact .minus

theorem isDigit_of_mem_replicate {n : Nat} {c : Char} (member : c ∈ List.replicate n '0') :
    c.isDigit = true := by
  rw [List.eq_of_mem_replicate member]
  rfl

theorem exists_numeralText_positionalDigits {sign digits : List Char} {negative : Bool}
    (signed : SignText sign negative) (decimal : ∀ c ∈ digits, c.isDigit = true)
    (some : digits ≠ []) (exponent : Int) :
    ∃ value, NumeralText Char.isDigit (sign ++ positionalDigits digits exponent) value ∧
      value.SameValue ⟨negative, Nat.ofDigitChars 10 digits 0, exponent⟩ := by
  unfold positionalDigits
  simp only
  split_ifs with whole inside
  · have zeros : ∀ c ∈ digits ++ List.replicate exponent.toNat '0', c.isDigit = true :=
      List.forall_mem_append.mpr ⟨decimal, fun c => isDigit_of_mem_replicate⟩
    refine ⟨_, .whole signed (by simp [some]) zeros, rfl, ?_⟩
    have power : (10 : ℚ) ^ exponent = 10 ^ exponent.toNat := by
      rw [← zpow_natCast, Int.toNat_of_nonneg (by omega)]
    rw [magnitude, magnitude, Nat.ofDigitChars_append, Nat.ofDigitChars_replicate_zero, power]
    push_cast
    ring
  · obtain ⟨front, back, rfl, length⟩ : ∃ front back, digits = front ++ back ∧
        back.length = (-exponent).toNat :=
      ⟨_, _, (List.take_append_drop (digits.length - (-exponent).toNat) digits).symm, by
        rw [List.length_drop]
        omega⟩
    rw [← length, List.length_append, Nat.add_sub_cancel, List.take_left, List.drop_left]
    obtain ⟨before, behind⟩ := List.forall_mem_append.mp decimal
    have places : back ≠ [] := List.length_pos_iff.mp (by omega)
    have scale : (-back.length : Int) = exponent := by omega
    refine ⟨_, .point signed before places behind, rfl, ?_⟩
    rw [scale]
  · rw [List.cons_append, List.cons_append]
    obtain ⟨fraction, filled⟩ : ∃ fraction, fraction =
        List.replicate ((-exponent).toNat - digits.length) '0' ++ digits := ⟨_, rfl⟩
    rw [← filled]
    have behind : ∀ c ∈ fraction, c.isDigit = true := by
      rw [filled]
      exact List.forall_mem_append.mpr ⟨fun c => isDigit_of_mem_replicate, decimal⟩
    have scale : (-fraction.length : Int) = exponent := by
      rw [filled, List.length_append, List.length_replicate]
      omega
    have value : Nat.ofDigitChars 10 (['0'] ++ fraction) 0 = Nat.ofDigitChars 10 digits 0 := by
      rw [filled, Nat.ofDigitChars_append, Nat.ofDigitChars_append,
        Nat.ofDigitChars_replicate_zero]
      rfl
    have zero : ∀ c ∈ ['0'], c.isDigit = true := List.forall_mem_singleton.mpr rfl
    refine ⟨_, .point signed zero (by simp [filled, some]) behind, rfl, ?_⟩
    rw [scale, value]

/-- Positional notation has digits and a point. -/
theorem mem_positionalDigits {digits : List Char} (decimal : ∀ c ∈ digits, c.isDigit = true)
    (exponent : Int) {c : Char} (member : c ∈ positionalDigits digits exponent) :
    c.isDigit = true ∨ c = '.' := by
  unfold positionalDigits at member
  simp only at member
  split_ifs at member with whole inside
  · rcases List.mem_append.mp member with digit | zero
    · exact Or.inl (decimal c digit)
    · exact Or.inl (isDigit_of_mem_replicate zero)
  · rcases List.mem_append.mp member with before | after
    · exact Or.inl (decimal c (List.mem_of_mem_take before))
    · rcases List.mem_cons.mp after with point | behind
      · exact Or.inr point
      · exact Or.inl (decimal c (List.mem_of_mem_drop behind))
  · simp only [List.mem_append, List.mem_cons] at member
    rcases member with (rfl | point | zero) | digit
    · exact Or.inl rfl
    · exact Or.inr point
    · exact Or.inl (isDigit_of_mem_replicate zero)
    · exact Or.inl (decimal c digit)

/-- A decimal in positional notation is a minus sign, if it is negative, and digits with a point or
without one. -/
theorem exists_unsigned_positional (d : Decimal) :
    ∃ unsigned, d.positional = signText d.negative ++ unsigned ∧
      ∀ c ∈ unsigned, c.isDigit = true ∨ c = '.' := by
  refine ⟨_, rfl, ?_⟩
  split_ifs with zero
  · exact List.forall_mem_singleton.mpr (Or.inl rfl)
  · intro c member
    exact mem_positionalDigits
      (fun c => Nat.isDigit_of_mem_toDigits (b := 10) (by decide) (by decide)) _ member

/-- A decimal in positional notation is a numeral of the same value. -/
theorem exists_numeralText_positional (d : Decimal) :
    ∃ value, NumeralText Char.isDigit d.positional value ∧ value.SameValue d := by
  rw [positional]
  split_ifs with zero
  · refine ⟨⟨d.negative, 0, 0⟩,
      .whole (signText_written d.negative) (List.cons_ne_nil _ _)
        (List.forall_mem_singleton.mpr rfl), rfl, ?_⟩
    rw [magnitude, magnitude, zero, Nat.cast_zero, zero_mul, zero_mul]
  · obtain ⟨value, written, same⟩ := exists_numeralText_positionalDigits
      (signText_written d.negative)
      (fun c => Nat.isDigit_of_mem_toDigits (b := 10) (by decide) (by decide))
      Nat.toDigits_ne_nil d.exponent
    rw [Nat.ofDigitChars_ten_toDigits] at same
    exact ⟨value, written, same⟩

end Decimal
end PlaneRegion
