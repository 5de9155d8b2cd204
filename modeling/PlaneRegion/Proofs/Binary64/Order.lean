import PlaneRegion.Proofs.Binary64.Fields

/-!
# Order of binary64 numbers

Two defined numbers are in the order of the bits that hold them, where the sign bit turns the order
round; an undefined number is comparable with none.
-/

namespace PlaneRegion
namespace Binary64

open Float.Model Float.Model.UnpackedFloat

/-- The bits that hold a significand and an exponent. -/
def magnitude (significand : Nat) (exponent : Int) : Int :=
  (exponent + 1074) * hiddenBit + significand

/-- The bits of the infinities without their sign. -/
def infinityBits : Int := 2047 * hiddenBit

/-- How many numbers an operand is away from zero. -/
def steps : UnpackedFloat → Int
  | .finite sign significand exponent _ => sign.apply (magnitude significand exponent)
  | .infinity sign => sign.apply infinityBits
  | _ => 0

/-- The operand is one that the fields of a number can hold. -/
def IsOperand : UnpackedFloat → Prop
  | .finite _ significand exponent _ => IsHeld significand exponent
  | _ => True

theorem isOperand_unpack (x : Float) : IsOperand x.toModel.unpack := by
  rw [unpack_eq_operand]
  cases decoded : decode x with
  | finite negative significand exponent =>
      rw [Value.operand]
      split_ifs
      · trivial
      · exact isHeld_of_decode decoded
  | infinite negative => trivial
  | undefined => trivial

theorem compare_magnitude {s₁ s₂ : Nat} {e₁ e₂ : Int} (first : IsHeld s₁ e₁)
    (second : IsHeld s₂ e₂) :
    (compare e₁ e₂).then (compare s₁ s₂) = compare (magnitude s₁ e₁) (magnitude s₂ e₂) := by
  obtain ⟨below₁, least₁, -, leading₁⟩ := first
  obtain ⟨below₂, least₂, -, leading₂⟩ := second
  simp only [magnitude, hiddenBit] at *
  rcases lt_trichotomy e₁ e₂ with less | rfl | greater
  · rw [compare_lt_iff_lt.mpr less, Ordering.lt_then, eq_comm, compare_lt_iff_lt]
    omega
  · rw [compare_eq_iff_eq.mpr rfl, Ordering.eq_then]
    rcases lt_trichotomy s₁ s₂ with less | rfl | greater
    · rw [compare_lt_iff_lt.mpr less, eq_comm, compare_lt_iff_lt]
      omega
    · rw [compare_eq_iff_eq.mpr rfl, compare_eq_iff_eq.mpr rfl]
    · rw [compare_gt_iff_gt.mpr greater, eq_comm, compare_gt_iff_gt]
      omega
  · rw [compare_gt_iff_gt.mpr greater, Ordering.gt_then, eq_comm, compare_gt_iff_gt]
    omega

private theorem compare_neg (m n : Int) : compare (-m) (-n) = (compare m n).swap := by
  rw [Int.compare_swap]
  simp only [Int.compare_eq_ite_lt, Int.neg_lt_neg_iff]

private theorem lt_of_steps {m n : Int} (less : m < n) :
    some Ordering.lt = some (compare m n) := by
  rw [compare_lt_iff_lt.mpr less]

private theorem gt_of_steps {m n : Int} (greater : n < m) :
    some Ordering.gt = some (compare m n) := by
  rw [compare_gt_iff_gt.mpr greater]

theorem IsHeld.magnitude_bounds {significand : Nat} {exponent : Int}
    (held : IsHeld significand exponent) (positive : 0 < significand) :
    0 < magnitude significand exponent ∧ magnitude significand exponent < infinityBits := by
  obtain ⟨below, least, greatest, leading⟩ := held
  simp only [magnitude, infinityBits, hiddenBit] at *
  omega

/-- Defined numbers are compared by their distances from zero. -/
theorem compare_operand {a b : UnpackedFloat} (heldA : IsOperand a) (heldB : IsOperand b)
    (definedA : a.isNaN = false) (definedB : b.isNaN = false) :
    a.compare b = some (compare (steps a) (steps b)) := by
  cases a with
  | notANumber => cases definedA
  | infinity sign =>
      cases b with
      | notANumber => cases definedB
      | infinity other => cases sign <;> cases other <;> rfl
      | zero other => cases sign <;> rfl
      | finite other significand exponent positive =>
          obtain ⟨least, greatest⟩ := IsHeld.magnitude_bounds heldB positive
          cases sign
          · refine lt_of_steps ?_
            cases other <;> simp only [steps, Sign.apply] <;> omega
          · refine gt_of_steps ?_
            cases other <;> simp only [steps, Sign.apply] <;> omega
  | zero sign =>
      cases b with
      | notANumber => cases definedB
      | infinity other => cases other <;> rfl
      | zero other => rfl
      | finite other significand exponent positive =>
          obtain ⟨least, greatest⟩ := IsHeld.magnitude_bounds heldB positive
          cases other
          · exact gt_of_steps (Int.neg_neg_of_pos least)
          · exact lt_of_steps least
  | finite sign significand exponent positive =>
      obtain ⟨leastA, greatestA⟩ := IsHeld.magnitude_bounds heldA positive
      cases b with
      | notANumber => cases definedB
      | infinity other =>
          cases other
          · refine gt_of_steps ?_
            cases sign <;> simp only [steps, Sign.apply] <;> omega
          · refine lt_of_steps ?_
            cases sign <;> simp only [steps, Sign.apply] <;> omega
      | zero other =>
          cases sign
          · exact lt_of_steps (Int.neg_neg_of_pos leastA)
          · exact gt_of_steps leastA
      | finite other significand' exponent' positive' =>
          obtain ⟨leastB, greatestB⟩ := IsHeld.magnitude_bounds heldB positive'
          have ordered := compare_magnitude heldA heldB
          cases sign <;> cases other
          · simp only [UnpackedFloat.compare, ordered, steps, Sign.apply, compare_neg]
          · exact lt_of_steps (by simp only [steps, Sign.apply]; omega)
          · exact gt_of_steps (by simp only [steps, Sign.apply]; omega)
          · simp only [UnpackedFloat.compare, ordered, steps, Sign.apply]

/-- How many numbers a number is away from zero. -/
def ordinal (x : Float) : Int := steps x.toModel.unpack

theorem compare_eq {x y : Float} (definedX : x.isNaN = false) (definedY : y.isNaN = false) :
    x.toModel.unpack.compare y.toModel.unpack = some (compare (ordinal x) (ordinal y)) :=
  compare_operand (isOperand_unpack x) (isOperand_unpack y) definedX definedY

theorem le_iff {x y : Float} (definedX : x.isNaN = false) (definedY : y.isNaN = false) :
    x ≤ y ↔ ordinal x ≤ ordinal y := by
  refine Iff.trans (b := x.toModel.unpack.le y.toModel.unpack = true) decide_eq_true_iff ?_
  rw [UnpackedFloat.le, compare_eq definedX definedY, Option.any_some, ← Int.isLE_compare]

theorem lt_iff {x y : Float} (definedX : x.isNaN = false) (definedY : y.isNaN = false) :
    x < y ↔ ordinal x < ordinal y := by
  refine Iff.trans (b := x.toModel.unpack.lt y.toModel.unpack = true) decide_eq_true_iff ?_
  rw [UnpackedFloat.lt, compare_eq definedX definedY, beq_iff_eq, Option.some_inj,
    compare_lt_iff_lt]

theorem beq_iff {x y : Float} (definedX : x.isNaN = false) (definedY : y.isNaN = false) :
    (x == y) = true ↔ ordinal x = ordinal y := by
  change x.toModel.unpack.beq y.toModel.unpack = true ↔ _
  rw [UnpackedFloat.beq, compare_eq definedX definedY, beq_iff_eq, Option.some_inj,
    compare_eq_iff_eq]

/-- An undefined number is not comparable with any number. -/
theorem compare_of_undefined {x y : Float} (undefined : x.isNaN = true ∨ y.isNaN = true) :
    x.toModel.unpack.compare y.toModel.unpack = none := by
  change x.toModel.unpack.isNaN = true ∨ y.toModel.unpack.isNaN = true at undefined
  cases first : x.toModel.unpack with
  | notANumber => rfl
  | infinity sign | zero sign | finite sign =>
      rw [first] at undefined
      cases second : y.toModel.unpack <;> simp [second, UnpackedFloat.isNaN] at undefined
      rfl

theorem not_le_of_undefined {x y : Float} (undefined : x.isNaN = true ∨ y.isNaN = true) :
    ¬ x ≤ y := by
  intro atMost
  have compared : x.toModel.unpack.le y.toModel.unpack = true := of_decide_eq_true atMost
  rw [UnpackedFloat.le, compare_of_undefined undefined] at compared
  cases compared

/-- Numbers in order are defined. -/
theorem defined_of_le {x y : Float} (ordered : x ≤ y) : x.isNaN = false ∧ y.isNaN = false := by
  constructor
  · by_contra undefined
    exact not_le_of_undefined (Or.inl (by simpa using undefined)) ordered
  · by_contra undefined
    exact not_le_of_undefined (Or.inr (by simpa using undefined)) ordered

theorem not_lt_of_undefined {x y : Float} (undefined : x.isNaN = true ∨ y.isNaN = true) :
    ¬ x < y := by
  intro less
  have compared : x.toModel.unpack.lt y.toModel.unpack = true := of_decide_eq_true less
  rw [UnpackedFloat.lt, compare_of_undefined undefined] at compared
  cases compared

theorem not_beq_of_undefined {x y : Float} (undefined : x.isNaN = true ∨ y.isNaN = true) :
    ¬ (x == y) = true := by
  intro equal
  change x.toModel.unpack.beq y.toModel.unpack = true at equal
  rw [UnpackedFloat.beq, compare_of_undefined undefined] at equal
  cases equal

/-- Of two numbers each is less than the other in one direction at most. -/
theorem lt_asymm {x y : Float} (less : x < y) : ¬ y < x := by
  cases first : x.isNaN with
  | true => exact absurd less (not_lt_of_undefined (Or.inl first))
  | false =>
      cases second : y.isNaN with
      | true => exact absurd less (not_lt_of_undefined (Or.inr second))
      | false =>
          rw [lt_iff first second] at less
          rw [lt_iff second first]
          omega

/-- A number is not at most another one exactly if they are not comparable or the other is less. -/
theorem not_le_iff {x y : Float} :
    ¬ x ≤ y ↔ x.isNaN = true ∨ y.isNaN = true ∨ y < x := by
  cases first : x.isNaN with
  | true => simp [not_le_of_undefined (Or.inl first)]
  | false =>
      cases second : y.isNaN with
      | true => simp [not_le_of_undefined (Or.inr second)]
      | false => simp [le_iff first second, lt_iff second first]

protected theorem le_of_lt {x y : Float} (less : x < y) : x ≤ y := by
  by_contra greater
  rcases not_le_iff.mp greater with undefined | undefined | greater
  · exact not_lt_of_undefined (Or.inl undefined) less
  · exact not_lt_of_undefined (Or.inr undefined) less
  · exact lt_asymm less greater

/-! ## The total order -/

theorem steps_finite {negative : Bool} {significand : Nat} {exponent : Int}
    (held : IsHeld significand exponent) :
    steps (Value.finite negative significand exponent).operand =
      (signOf negative).apply (magnitude significand exponent) := by
  rw [Value.operand]
  split_ifs with zero
  · subst zero
    have least : exponent = -1074 := held.leading.resolve_left (by decide)
    subst least
    cases negative <;> rfl
  · rfl

/-- The distance of a defined number from zero is the number that its bits without the sign hold. -/
theorem ordinal_eq {x : Float} (defined : x.isNaN = false) :
    ordinal x = (signOf (signBit ≤ x.toBits.toNat)).apply (x.toBits.toNat % signBit : Nat) := by
  have bound : x.toBits.toNat < 2 * signBit := x.toBits.toBitVec.isLt
  have split : x.toBits.toNat % signBit =
      x.toBits.toNat / hiddenBit % 2048 * hiddenBit + x.toBits.toNat % hiddenBit := by
    simp only [signBit, hiddenBit] at *
    omega
  rw [ordinal, unpack_eq_operand, split]
  cases decoded : decode x with
  | finite negative significand exponent =>
      rw [steps_finite (isHeld_of_decode decoded)]
      unfold decode at decoded
      simp only at decoded
      split_ifs at decoded with full plain empty
      all_goals
        cases decoded
        refine congrArg _ ?_
        simp only [magnitude, hiddenBit] at *
        omega
  | infinite negative =>
      unfold decode at decoded
      simp only at decoded
      split_ifs at decoded with full plain
      cases decoded
      rw [full, plain]
      rfl
  | undefined => rw [← Bool.not_eq_true, isNaN_iff] at defined; exact absurd decoded defined

theorem rank_eq {x : Float} (defined : x.isNaN = false) :
    rank x = if signBit ≤ x.toBits.toNat then ordinal x - 1 else ordinal x := by
  have known : decode x ≠ .undefined := by
    rw [← Bool.not_eq_true, isNaN_iff] at defined
    exact defined
  rw [ordinal_eq defined, rank]
  split
  · exact absurd ‹_› known
  · by_cases negative : signBit ≤ x.toBits.toNat <;> simp [negative, signOf, Sign.apply]

/-- Undefined numbers come first in the total order. -/
theorem isNaN_of_rank_le {x y : Float} (ranked : rank x ≤ rank y) (undefined : y.isNaN = true) :
    x.isNaN = true := by
  rw [isNaN_iff] at undefined ⊢
  by_contra defined
  have first : rank y = -(2 * signBit : Nat) := by
    rw [rank, undefined]
  have later : -(signBit : Int) ≤ rank x := by
    unfold rank
    split
    · exact absurd ‹_› defined
    · have below : x.toBits.toNat % signBit < signBit := Nat.mod_lt _ (by decide)
      dsimp only
      split_ifs <;> omega
  rw [first] at ranked
  simp only [signBit] at *
  omega

/-- What follows a defined number in the total order is not less than it. -/
theorem le_of_rank_le {x y : Float} (definedX : x.isNaN = false) (ranked : rank x ≤ rank y) :
    x ≤ y := by
  have definedY : y.isNaN = false := by
    by_contra undefined
    rw [isNaN_of_rank_le ranked (by simpa using undefined)] at definedX
    cases definedX
  rw [le_iff definedX definedY]
  rw [rank_eq definedX, rank_eq definedY] at ranked
  have signX := ordinal_eq definedX
  have signY := ordinal_eq definedY
  split_ifs at ranked with negativeX negativeY negativeY
  · omega
  · simp only [negativeX, negativeY, decide_true, decide_false, signOf, Sign.apply, if_true,
      Bool.false_eq_true, if_false] at signX signY
    omega
  · omega
  · exact ranked

theorem rank_lt_of_lt {x y : Float} (less : x < y) : rank x < rank y := by
  by_contra! ranked
  cases first : x.isNaN with
  | true => exact not_lt_of_undefined (Or.inl first) less
  | false =>
      cases second : y.isNaN with
      | true => exact not_lt_of_undefined (Or.inr second) less
      | false =>
          have ordered := le_of_rank_le second ranked
          rw [le_iff second first] at ordered
          rw [lt_iff first second] at less
          omega

end Binary64
end PlaneRegion
