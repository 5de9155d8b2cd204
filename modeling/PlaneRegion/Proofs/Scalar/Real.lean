import Mathlib.Analysis.SpecialFunctions.Pow.Real
import Mathlib.Analysis.SpecialFunctions.Trigonometric.Arctan
import Mathlib.Data.List.Sort
import Mathlib.Order.RelIso.Basic
import PlaneRegion.Scalar.Basic

/-!
# Exact scalars

The real numbers as scalars: every operation is the exact one, and every number is finite.
-/

namespace PlaneRegion

/-! ## Sorting of scalars

Lists of numbers are sorted by insertion, in the total order of their type.
-/

namespace Scalar

/-- Numbers are sorted by insertion. -/
theorem ascending_eq_insertionSort {α : Type} [Scalar α] {relation : α → α → Prop}
    [DecidableRel relation] (agrees : ∀ x y : α, precedes x y = decide (relation x y))
    (values : List α) : ascending values = values.insertionSort relation := by
  have insert : ∀ (value : α) (rest : List α),
      insertAscending value rest = rest.orderedInsert relation value := by
    intro value rest
    induction rest with
    | nil => rfl
    | cons head tail induction =>
        rw [insertAscending, List.orderedInsert, induction, agrees]
        exact if_congr decide_eq_true_iff rfl rfl
  induction values with
  | nil => rfl
  | cons value values induction =>
      rw [List.insertionSort_cons, ← induction, ← insert]
      rfl

/-- Sorting gives the same numbers. -/
theorem ascending_perm {α : Type} [Scalar α] (values : List α) :
    (ascending values).Perm values := by
  rw [ascending_eq_insertionSort fun _ _ => Bool.decide_eq_true.symm]
  exact List.perm_insertionSort _ _

/-- Binary64 numbers are sorted by their position in the total order. -/
theorem pairwise_ascending_binary64 (values : List Float) :
    (ascending values).Pairwise fun x y => Binary64.rank x ≤ Binary64.rank y := by
  have total : Std.Total fun x y : Float => Binary64.rank x ≤ Binary64.rank y :=
    ⟨fun x y => Int.le_total _ _⟩
  have trans : IsTrans Float fun x y => Binary64.rank x ≤ Binary64.rank y :=
    ⟨fun _ _ _ => Int.le_trans⟩
  rw [ascending_eq_insertionSort fun _ _ => rfl]
  exact List.pairwise_insertionSort _ _

end Scalar

/-! ## Real numbers as scalars -/

noncomputable instance : Scalar ℝ where
  ofInt n := n
  ofDecimal d := (if d.negative then -1 else 1) * d.digits * 10 ^ d.exponent
  equal x y := decide (x = y)
  less x y := decide (x < y)
  atMost x y := decide (x ≤ y)
  precedes x y := decide (x ≤ y)
  isFinite _ := true
  floorInt x := ⌊x⌋
  ceilInt x := ⌈x⌉
  floor x := ⌊x⌋
  ceil x := ⌈x⌉
  abs x := |x|
  sqrt := Real.sqrt
  power x y := x ^ y
  hypot x y := √(x ^ 2 + y ^ 2)
  exp := Real.exp
  log := Real.log
  sin := Real.sin
  cos := Real.cos
  tan := Real.tan
  asin := Real.arcsin
  acos := Real.arccos
  atan := Real.arctan

namespace Scalar

@[simp]
theorem equal_real (x y : ℝ) : equal x y = decide (x = y) :=
  rfl

@[simp]
theorem less_real (x y : ℝ) : less x y = decide (x < y) :=
  rfl

@[simp]
theorem isFinite_real (x : ℝ) : isFinite x = true :=
  rfl

@[simp]
theorem power_real (x y : ℝ) : power x y = x ^ y :=
  rfl

@[simp]
theorem sqrt_real (x : ℝ) : sqrt x = √x :=
  rfl

@[simp]
theorem ofNat_real (n : Nat) : (ofNat n : ℝ) = n :=
  Int.cast_natCast n

/-- The sum from left to right is the sum of a list. -/
theorem sum_real (values : List ℝ) : sum values = values.sum := by
  have start : (-ofNat 0 : ℝ) = 0 := by simp
  rw [sum, start, List.sum_eq_foldl]

theorem ascending_real (values : List ℝ) :
    ascending values = values.insertionSort (· ≤ ·) :=
  ascending_eq_insertionSort (fun _ _ => rfl) values

/-- Sorting gives ascending numbers. -/
theorem pairwise_ascending (values : List ℝ) : (ascending values).Pairwise (· ≤ ·) := by
  rw [ascending_real]
  exact List.pairwise_insertionSort _ _

/-- The two least of at least two numbers stand first. -/
theorem exists_ascending_eq {values : List ℝ} (two : 2 ≤ values.length) :
    ∃ lower upper rest, ascending values = lower :: upper :: rest ∧
      values.Perm (lower :: upper :: rest) ∧ lower ≤ upper ∧ ∀ other ∈ rest, upper ≤ other := by
  have sorted := pairwise_ascending values
  have same := ascending_perm values
  match found : ascending values with
  | [] =>
      rw [found] at same
      simp [← same.length_eq] at two
  | [_] =>
      rw [found] at same
      simp [← same.length_eq] at two
  | lower :: upper :: rest =>
      rw [found] at sorted same
      obtain ⟨least, later⟩ := List.pairwise_cons.mp sorted
      exact ⟨lower, upper, rest, rfl, same.symm, least upper List.mem_cons_self,
        (List.pairwise_cons.mp later).1⟩

end Scalar
end PlaneRegion
