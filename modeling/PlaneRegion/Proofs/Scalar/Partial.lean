import PlaneRegion.Proofs.Scalar.Real

/-!
# Exact scalars with an undefined number

The real numbers together with one undefined number as scalars. An operation outside of its domain
gives the undefined number, and so does every operation on it: division by zero, the root of a
negative number, a power of a negative number that is no integer power, and a negative power of
zero. The undefined number is the only one that is not finite; it is equal to nothing, not even to
itself, and is sorted behind all others.
-/

namespace PlaneRegion

/-- A real number, or the undefined one. -/
abbrev PartialReal := Option ℝ

namespace PartialReal

/-- The power of the base has a real value. -/
def HasPower (base exponent : ℝ) : Prop :=
  0 < base ∨ base = 0 ∧ 0 ≤ exponent ∨ base < 0 ∧ ∃ k : ℤ, exponent = k

/-- A comparison that fails on the undefined number. -/
def compares (relation : ℝ → ℝ → Prop) [DecidableRel relation] : PartialReal → PartialReal → Bool
  | some x, some y => decide (relation x y)
  | _, _ => false

open Classical in
/-- An operation that is defined on a part of the numbers only. -/
noncomputable def within (domain : ℝ → Prop) (operation : ℝ → ℝ) (x : PartialReal) : PartialReal :=
  x.bind fun a => if domain a then some (operation a) else none

open Classical in
/-- An operation on two numbers that is defined on a part of the pairs only. -/
noncomputable def within₂ (domain : ℝ → ℝ → Prop) (operation : ℝ → ℝ → ℝ) (x y : PartialReal) :
    PartialReal :=
  x.bind fun a => y.bind fun b => if domain a b then some (operation a b) else none

/-- The order in which lists are sorted: the undefined number comes last. -/
noncomputable def precedes : PartialReal → PartialReal → Bool
  | _, none => true
  | none, some _ => false
  | some x, some y => decide (x ≤ y)

end PartialReal

open PartialReal in
noncomputable instance : Scalar PartialReal where
  add := Option.map₂ (· + ·)
  sub := Option.map₂ (· - ·)
  mul := Option.map₂ (· * ·)
  div := within₂ (fun _ y => y ≠ 0) (· / ·)
  neg := Option.map (-·)
  ofInt n := some n
  ofDecimal d := some (Scalar.ofDecimal d)
  equal := compares (· = ·)
  less := compares (· < ·)
  atMost := compares (· ≤ ·)
  precedes := precedes
  isFinite := Option.isSome
  floorInt x := x.elim 0 Int.floor
  ceilInt x := x.elim 0 Int.ceil
  floor := Option.map fun x => ⌊x⌋
  ceil := Option.map fun x => ⌈x⌉
  abs := Option.map fun x => |x|
  sqrt := within (0 ≤ ·) Real.sqrt
  power := within₂ HasPower (· ^ ·)
  hypot := Option.map₂ Scalar.hypot
  exp := Option.map Real.exp
  log := within (0 < ·) Real.log
  sin := Option.map Real.sin
  cos := Option.map Real.cos
  tan := within (Real.cos · ≠ 0) Real.tan
  asin := within (|·| ≤ 1) Real.arcsin
  acos := within (|·| ≤ 1) Real.arccos
  atan := Option.map Real.arctan

namespace PartialReal

@[simp]
theorem add_some (x y : ℝ) : (some x + some y : PartialReal) = some (x + y) :=
  rfl

@[simp]
theorem sub_some (x y : ℝ) : (some x - some y : PartialReal) = some (x - y) :=
  rfl

@[simp]
theorem mul_some (x y : ℝ) : (some x * some y : PartialReal) = some (x * y) :=
  rfl

@[simp]
theorem neg_some (x : ℝ) : (-some x : PartialReal) = some (-x) :=
  rfl

theorem mul_eq_some_iff {x y : PartialReal} {value : ℝ} :
    x * y = some value ↔ ∃ a b, x = some a ∧ y = some b ∧ a * b = value :=
  Option.map₂_eq_some_iff

theorem within_eq_some_iff {domain : ℝ → Prop} {operation : ℝ → ℝ} {x : PartialReal} {value : ℝ} :
    within domain operation x = some value ↔
      ∃ a, x = some a ∧ domain a ∧ operation a = value := by
  simp only [within, Option.bind_eq_some_iff, Option.ite_none_right_eq_some, Option.some.injEq]

theorem within₂_eq_some_iff {domain : ℝ → ℝ → Prop} {operation : ℝ → ℝ → ℝ} {x y : PartialReal}
    {value : ℝ} :
    within₂ domain operation x y = some value ↔
      ∃ a b, x = some a ∧ y = some b ∧ domain a b ∧ operation a b = value := by
  simp only [within₂, Option.bind_eq_some_iff, Option.ite_none_right_eq_some, Option.some.injEq]
  constructor
  · rintro ⟨a, left, b, right, defined⟩
    exact ⟨a, b, left, right, defined⟩
  · rintro ⟨a, b, left, right, defined⟩
    exact ⟨a, left, b, right, defined⟩

theorem div_eq_some_iff {x y : PartialReal} {value : ℝ} :
    x / y = some value ↔ ∃ a b, x = some a ∧ y = some b ∧ b ≠ 0 ∧ a / b = value :=
  within₂_eq_some_iff

theorem div_some (x : ℝ) {y : ℝ} (nonzero : y ≠ 0) :
    (some x / some y : PartialReal) = some (x / y) :=
  div_eq_some_iff.mpr ⟨x, y, rfl, rfl, nonzero, rfl⟩

@[simp]
theorem div_two (x : ℝ) : (some x / some 2 : PartialReal) = some (x / 2) :=
  div_some x two_ne_zero

theorem sqrt_eq_some_iff {x : PartialReal} {value : ℝ} :
    Scalar.sqrt x = some value ↔ ∃ a, x = some a ∧ 0 ≤ a ∧ √a = value :=
  within_eq_some_iff

theorem power_eq_some_iff {x y : PartialReal} {value : ℝ} :
    Scalar.power x y = some value ↔
      ∃ a b, x = some a ∧ y = some b ∧ HasPower a b ∧ a ^ b = value :=
  within₂_eq_some_iff

@[simp]
theorem equal_some (x y : ℝ) : Scalar.equal (some x : PartialReal) (some y) = decide (x = y) :=
  rfl

@[simp]
theorem less_some (x y : ℝ) : Scalar.less (some x : PartialReal) (some y) = decide (x < y) :=
  rfl

@[simp]
theorem atMost_some (x y : ℝ) : Scalar.atMost (some x : PartialReal) (some y) = decide (x ≤ y) :=
  rfl

/-- A number that a real one is at most is real. -/
theorem exists_of_atMost {bound : ℝ} {x : PartialReal}
    (atMost : Scalar.atMost (some bound) x = true) : ∃ real : ℝ, x = some real ∧ bound ≤ real := by
  cases x with
  | none => cases atMost
  | some x => exact ⟨x, rfl, of_decide_eq_true atMost⟩

@[simp]
theorem isFinite_some (x : ℝ) : Scalar.isFinite (some x : PartialReal) = true :=
  rfl

@[simp]
theorem ofNat_eq (n : Nat) : (Scalar.ofNat n : PartialReal) = some (n : ℝ) :=
  congrArg some (Int.cast_natCast n)

/-- A decimal without fraction is an integer. -/
theorem ofDecimal_whole (negative : Bool) (n : Nat) :
    (Scalar.ofDecimal ⟨negative, n, 0⟩ : PartialReal) =
      some (if negative then -(n : ℝ) else n) := by
  change some ((if negative = true then (-1 : ℝ) else 1) * n * 10 ^ (0 : ℤ)) = _
  cases negative <;> simp

/-- A decimal with a number of digits after the point. -/
theorem ofPlaces_eq (digits places : Nat) :
    (Scalar.ofPlaces digits places : PartialReal) = some (digits / 10 ^ places : ℝ) := by
  change some ((if false = true then (-1 : ℝ) else 1) * digits * 10 ^ (-(places : ℤ))) = _
  rw [if_neg Bool.false_ne_true, one_mul, zpow_neg, zpow_natCast, div_eq_mul_inv]

theorem half_eq : (Scalar.half : PartialReal) = some (1 / 2) := by
  rw [Scalar.half, ofPlaces_eq]
  norm_num

/-- The sum of real numbers is real. -/
theorem sum_map_some (values : List ℝ) :
    Scalar.sum (values.map some : List PartialReal) = some values.sum := by
  have added (start : ℝ) : (values.map some).foldl (· + ·) (some start : PartialReal) =
      some (start + values.sum) := by
    induction values generalizing start with
    | nil => simp
    | cons value values induction =>
        rw [List.map_cons, List.foldl_cons, add_some, induction, List.sum_cons, add_assoc]
  have start : (-Scalar.ofNat 0 : PartialReal) = some 0 := by simp
  rw [Scalar.sum, start, added, zero_add]

/-! ## Laws of the arithmetic -/

protected theorem neg_neg (x : PartialReal) : -(-x) = x := by
  cases x with
  | none => rfl
  | some x => exact congrArg some (neg_neg x)

protected theorem sub_eq_add_neg (x y : PartialReal) : x - y = x + -y := by
  change Option.map₂ _ x y = Option.map₂ _ x (y.map _)
  rw [Option.map₂_map_right]
  simp only [sub_eq_add_neg]

protected theorem neg_add (x y : PartialReal) : -(x + y) = -x + -y :=
  Option.map_map₂_distrib fun x y => neg_add x y

protected theorem add_right_comm (x y z : PartialReal) : x + y + z = x + z + y :=
  Option.map₂_right_comm fun x y z => add_right_comm x y z

protected theorem mul_neg (x y : PartialReal) : x * -y = -(x * y) := by
  change Option.map₂ _ x (y.map _) = (Option.map₂ _ x y).map _
  rw [Option.map₂_map_right, Option.map_map₂]
  simp only [mul_neg]

protected theorem neg_mul_neg (x y : PartialReal) : -x * -y = x * y := by
  change Option.map₂ _ (x.map _) (y.map _) = Option.map₂ _ x y
  rw [Option.map₂_map_left, Option.map₂_map_right]
  simp only [neg_mul_neg]

protected theorem neg_div_neg (x y : PartialReal) : -x / -y = x / y := by
  apply Option.ext
  intro value
  rw [div_eq_some_iff, div_eq_some_iff]
  cases x with
  | none => simp [show (-none : PartialReal) = none from rfl]
  | some x =>
      cases y with
      | none => simp [show (-none : PartialReal) = none from rfl]
      | some y => simp

theorem equal_neg_zero (x : PartialReal) :
    Scalar.equal (-x) (Scalar.ofNat 0) = Scalar.equal x (Scalar.ofNat 0) := by
  cases x with
  | none => rfl
  | some x => simp

/-! ## Sorting -/

private theorem precedes_total (x y : PartialReal) : precedes x y = true ∨ precedes y x = true := by
  cases x with
  | none => exact Or.inr (by cases y <;> rfl)
  | some x =>
      cases y with
      | none => exact Or.inl rfl
      | some y => simpa [precedes] using le_total x y

private theorem precedes_trans {x y z : PartialReal} (first : precedes x y = true)
    (second : precedes y z = true) : precedes x z = true := by
  cases z with
  | none => cases x <;> rfl
  | some z =>
      cases y with
      | none => cases second
      | some y =>
          cases x with
          | none => cases first
          | some x =>
              simp only [precedes, decide_eq_true_eq] at first second ⊢
              exact first.trans second

private theorem precedes_antisymm {x y : PartialReal} (first : precedes x y = true)
    (second : precedes y x = true) : x = y := by
  cases x with
  | none =>
      cases y with
      | none => rfl
      | some y => cases first
  | some x =>
      cases y with
      | none => cases second
      | some y =>
          simp only [precedes, decide_eq_true_eq] at first second
          rw [first.antisymm second]

/-- Two lists of the same numbers are sorted alike. -/
theorem ascending_eq_of_perm {values others : List PartialReal} (same : values.Perm others) :
    Scalar.ascending values = Scalar.ascending others := by
  have total : Std.Total fun x y : PartialReal => precedes x y = true := ⟨precedes_total⟩
  have trans : IsTrans PartialReal fun x y => precedes x y = true :=
    ⟨fun _ _ _ => precedes_trans⟩
  have sorted : ∀ values : List PartialReal, Scalar.ascending values =
      values.insertionSort fun x y => precedes x y = true :=
    Scalar.ascending_eq_insertionSort fun _ _ => Bool.decide_eq_true.symm
  rw [sorted, sorted]
  apply List.Perm.eq_of_pairwise fun _ _ _ _ => precedes_antisymm
  · exact List.pairwise_insertionSort _ _
  · exact List.pairwise_insertionSort _ _
  · exact (List.perm_insertionSort _ _).trans (same.trans (List.perm_insertionSort _ _).symm)

theorem ascending_pair {x y : ℝ} (inOrder : x ≤ y) :
    Scalar.ascending [(some x : PartialReal), some y] = [some x, some y] := by
  have first : Scalar.precedes (some x : PartialReal) (some y) = true := decide_eq_true inOrder
  exact if_pos first

end PartialReal
end PlaneRegion
