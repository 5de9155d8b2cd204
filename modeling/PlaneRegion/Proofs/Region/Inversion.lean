import PlaneRegion.Proofs.Binary64.Order
import PlaneRegion.Proofs.Region.Outcome
import PlaneRegion.Proofs.Scalar.Real

/-!
# Outer bounds in and out of order

The outer bounds of a described region are in ascending order, whichever way they are found, unless
a square root is held against a power and what is computed as their second meeting point lies below
zero. That pair is not sorted.
-/

namespace PlaneRegion
namespace Region

open Attempt

/-! ## Ways to outer bounds -/

section Outcomes

variable {α : Type} [Scalar α]

/-- A region is described from a pair of finite outer bounds. -/
theorem outerBounds_of_describe {rows : List Row} {region : Region α}
    (described : (describe rows : Attempt (Event α) EquationError _).outcome =
      .ok (some region)) :
    ∃ outer, (outerBounds (givenBounds rows region.order) :
        Attempt (Event α) EquationError _).outcome = .ok (some outer) ∧
      finitePair outer = some (region.outerLower, region.outerUpper) := by
  obtain ⟨order, -, solved⟩ := solve_of_describe described
  obtain ⟨_, _, _, _, solution⟩ := exists_isSolution_of_solve solved
  rw [solution.ordered]
  exact solution.ends

/-- Explicit outer bounds are as many values in ascending order. -/
theorem eq_ascending_of_explicitOuterBounds {outer : List String} {given : List α}
    (found : (explicitOuterBounds outer : Attempt (Event α) EquationError _).outcome =
      .ok (some given)) :
    ∃ values, values.length = outer.length ∧ given = Scalar.ascending values := by
  have lengths : ∀ {texts : List String} {values : List α},
      (constantValues texts : Attempt (Event α) EquationError _).outcome = .ok (some values) →
        values.length = texts.length := by
    intro texts
    induction texts with
    | nil =>
        rintro values ⟨⟩
        rfl
    | cons text rest induction =>
        intro values read
        rw [constantValues] at read
        obtain ⟨equation, -, read⟩ := outcome_bind_eq_ok_iff.mp read
        split_ifs at read
        · obtain ⟨tail, later, read⟩ := outcome_bind_eq_ok_iff.mp read
          cases tail with
          | none => cases read
          | some tail =>
              cases read
              rw [List.length_cons, List.length_cons, induction later]
        · cases read
  obtain ⟨values, read, found⟩ := outcome_bind_eq_ok_iff.mp found
  cases values with
  | none => cases found
  | some values =>
      cases found
      exact ⟨values, lengths read, rfl⟩

/-- The zeros of a quadratic are the one of a line, or two in ascending order. -/
theorem of_zeros_eq_some {q : Quadratic α} {roots : List α}
    (found : (zeros q : Traced (Event α) _).value = some roots) :
    roots = [-q.constant / q.linear] ∨
      Scalar.isFinite (discriminant q) = true ∧
        roots = zerosFrom q (Scalar.sqrt (discriminant q)) := by
  unfold zeros at found
  split_ifs at found with line level negative
  · cases found
    exact Or.inl rfl
  · cases found
    rw [Bool.or_eq_true, not_or, Bool.not_eq_true', Bool.not_eq_false] at negative
    exact Or.inr ⟨negative.2, rfl⟩

/-- The bounds are a square root and a power, in either order. -/
def RootAgainstPower (bounds : List (Equation α)) (root power : Term α) : Prop :=
  (bounds = [[root], [power]] ∨ bounds = [[power], [root]]) ∧ root.operation = .root ∧
    power.operation = .power

theorem rootAgainstPower_of_eq_some {bounds : List (Equation α)} {root power : Term α}
    (found : rootAndPower bounds = some (root, power)) : RootAgainstPower bounds root power := by
  unfold rootAndPower at found
  split at found
  · split_ifs at found with first second
    · cases found
      simp only [Term.isRoot, isPlainPower, Term.isPower, Bool.and_eq_true, beq_iff_eq] at first
      exact ⟨Or.inl rfl, first.1, first.2.1⟩
    · cases found
      simp only [Term.isRoot, isPlainPower, Term.isPower, Bool.and_eq_true, beq_iff_eq] at second
      exact ⟨Or.inr rfl, second.1, second.2.1⟩
  · cases found

/-- Bounds meet in the zeros of their difference, or in zero and the meeting point of a square root
with a power. -/
theorem of_intersections_eq_some {bounds : List (Equation α)} {points : List α}
    (found : (intersections bounds : Traced (Event α) _).value = some points) :
    (∃ q, difference bounds = some q ∧ (zeros q : Traced (Event α) _).value = some points) ∨
      difference bounds = none ∧ ∃ root power n, RootAgainstPower bounds root power ∧
        power.exponent = some n ∧
        points = [Scalar.ofNat 0,
          meetingPoint root.coefficient root.scale power.coefficient n] := by
  unfold intersections at found
  cases subtracted : difference bounds with
  | some q =>
      rw [subtracted] at found
      exact Or.inl ⟨q, rfl, found⟩
  | none =>
      rw [subtracted] at found
      refine Or.inr ⟨rfl, ?_⟩
      cases pair : rootAndPower bounds with
      | none =>
          rw [pair] at found
          cases found
      | some pair' =>
          obtain ⟨root, power⟩ := pair'
          rw [pair] at found
          simp only [Traced.value_bind, rootMeetsPower] at found
          cases degree : power.exponent with
          | none =>
              rw [degree] at found
              cases found
          | some n =>
              rw [degree] at found
              simp only at found
              split_ifs at found
              · cases found
                exact ⟨root, power, n, rootAgainstPower_of_eq_some pair, degree, rfl⟩
              · cases found

end Outcomes

/-! ## Ascending bounds -/

/-- The literal zero of the program is the number zero. -/
theorem ofNat_zero_binary64 : (Scalar.ofNat 0 : Float) = 0 := by
  decide

/-- A finite bound is not greater than what follows it in the total order. -/
theorem le_of_sorted {lower upper : Float} {rest : List Float}
    (sorted : (lower :: rest).Pairwise fun x y => Binary64.rank x ≤ Binary64.rank y)
    (finite : lower.isFinite = true) (member : upper ∈ rest) : lower ≤ upper :=
  Binary64.le_of_rank_le (Binary64.isNaN_of_isFinite finite)
    ((List.pairwise_cons.mp sorted).1 upper member)

private theorem isNaN_of_differByUndefined {bounds : List (Equation Float)} {q : Quadratic Float}
    (subtracted : difference bounds = some q) (undefined : differByUndefined bounds = true) :
    q.constant.isNaN = true := by
  rw [differByUndefined, subtracted] at undefined
  by_contra defined
  rw [Bool.not_eq_true] at defined
  have same : Scalar.equal q.constant q.constant = true :=
    (Binary64.beq_iff defined defined).mpr rfl
  simp [same] at undefined

private theorem zeros_ascending {q : Quadratic Float} {points : List Float}
    (found : (zeros q : Traced (Event Float) _).value = some points) :
    (points.Pairwise fun x y => Binary64.rank x ≤ Binary64.rank y) ∧
      (q.constant.isNaN = true → ∃ point, points = [point] ∧ point.isFinite = false) := by
  rcases of_zeros_eq_some found with rfl | ⟨finite, rfl⟩
  · refine ⟨List.pairwise_singleton _ _, fun undefined => ⟨_, rfl, ?_⟩⟩
    exact Binary64.isFinite_eq_false_iff.mpr
      (Or.inl (Binary64.isNaN_div (Binary64.isNaN_neg undefined) _))
  · refine ⟨Scalar.pairwise_ascending_binary64 _, fun undefined => ?_⟩
    have infinite : (discriminant q).isFinite = false :=
      Binary64.isFinite_eq_false_iff.mpr
        (Or.inl (Binary64.isNaN_sub (Binary64.isNaN_mul undefined _) _))
    change (discriminant q).isFinite = true at finite
    rw [infinite] at finite
    cases finite

/-- What is derived from bounds whose difference has an undefined constant is not finite. -/
theorem derived_of_differByUndefined {bounds : List (Equation Float)}
    {points : List Float} (undefined : differByUndefined bounds = true)
    (found : (intersections bounds : Traced (Event Float) _).value = some points) :
    ∃ point, points = [point] ∧ point.isFinite = false := by
  rcases of_intersections_eq_some found with ⟨q, subtracted, zero⟩ | ⟨none, -⟩
  · exact (zeros_ascending zero).2 (isNaN_of_differByUndefined subtracted undefined)
  · rw [differByUndefined, none] at undefined
    cases undefined

private theorem le_of_merged {bounds : List (Equation Float)} {given lower upper : Float}
    {points : List Float}
    (found : (intersections bounds : Traced (Event Float) _).value = some points)
    (merged : (joinOuterBounds (differByUndefined bounds) [given] points).take 2 = [lower, upper])
    (finiteLower : lower.isFinite = true) (finiteUpper : upper.isFinite = true) :
    lower ≤ upper := by
  cases undefined : differByUndefined bounds with
  | true =>
      obtain ⟨point, rfl, infinite⟩ := derived_of_differByUndefined undefined found
      rw [undefined] at merged
      cases merged
      rw [infinite] at finiteUpper
      cases finiteUpper
  | false =>
      rw [undefined, joinOuterBounds, if_neg Bool.false_ne_true] at merged
      have sorted := Scalar.pairwise_ascending_binary64 ([given] ++ points)
      rw [← List.take_append_drop 2 (Scalar.ascending ([given] ++ points)), merged] at sorted
      exact le_of_sorted sorted finiteLower List.mem_cons_self

/-! ## Inverted bounds -/

/-- The region is described from a square root against a power alone, and the point in which they
are said to meet besides zero lies below zero. -/
structure MeetsBelowZero (rows : List Row) (region : Region Float) (root power : Term Float)
    (n : Float) : Prop where
  /-- No outer bound is given. -/
  alone : equationsFor region.order.outer rows = []
  inner : ∃ equations, RootAgainstPower equations root power ∧
    (readAll (equationsFor region.order.inner rows) :
      Attempt (Event Float) EquationError _).outcome = .ok equations
  degree : power.exponent = some n
  lower : region.outerLower = 0
  upper : region.outerUpper = meetingPoint root.coefficient root.scale power.coefficient n
  below : region.outerUpper < 0

private theorem of_mergeOuterBounds {bounds : List (Equation Float)} {outer : List String}
    {given : Option (List Float)} {lower upper : Float}
    (read : (explicitOuterBounds outer : Attempt (Event Float) EquationError _).outcome = .ok given)
    (few : outer.length < 2)
    (merged : mergeOuterBounds (differByUndefined bounds) given
      (intersections bounds : Traced (Event Float) _).value = some [lower, upper])
    (finiteLower : lower.isFinite = true) (finiteUpper : upper.isFinite = true) :
    lower ≤ upper ∨ outer = [] ∧ ∃ root power n, RootAgainstPower bounds root power ∧
      power.exponent = some n ∧ lower = 0 ∧
      upper = meetingPoint root.coefficient root.scale power.coefficient n := by
  cases given with
  | none => cases merged
  | some given =>
      obtain ⟨values, length, rfl⟩ := eq_ascending_of_explicitOuterBounds read
      match values with
      | [] =>
          have none_given : outer = [] := List.length_eq_zero_iff.mp length.symm
          rcases of_intersections_eq_some merged with ⟨q, -, zero⟩ | ⟨-, root, power, n, kinds⟩
          · exact Or.inl (le_of_sorted (zeros_ascending zero).1 finiteLower List.mem_cons_self)
          · obtain ⟨against, degree, same⟩ := kinds
            cases same
            exact Or.inr ⟨none_given, root, power, n, against, degree, ofNat_zero_binary64, rfl⟩
      | [value] =>
          cases meet : (intersections bounds : Traced (Event Float) _).value with
          | none =>
              rw [meet] at merged
              cases merged
          | some points =>
              rw [meet] at merged
              exact Or.inl (le_of_merged meet (Option.some.inj merged) finiteLower finiteUpper)
      | _ :: _ :: _ =>
          simp only [List.length_cons] at length
          omega

/-- The outer bounds of a described region are out of order exactly if they are zero and a meeting
point below zero. -/
theorem not_ascending_iff {rows : List Row} {region : Region Float}
    (described : (describe rows : Attempt (Event Float) EquationError _).outcome =
      .ok (some region)) :
    ¬ region.outerLower ≤ region.outerUpper ↔
      ∃ root power n, MeetsBelowZero rows region root power n := by
  have zero_defined : (0 : Float).isNaN = false := by decide +kernel
  obtain ⟨outer, found, pair⟩ := outerBounds_of_describe described
  obtain ⟨rfl, finiteLower, finiteUpper⟩ := eq_of_finitePair pair
  change region.outerLower.isFinite = true at finiteLower
  change region.outerUpper.isFinite = true at finiteUpper
  constructor
  · intro inverted
    rcases of_outerBounds_eq_some found with
      ⟨⟨-, few⟩, given, equations, read, inner, merged⟩ | ⟨-, found⟩
    · rcases of_mergeOuterBounds read few merged finiteLower finiteUpper with
        ascending | ⟨alone, root, power, n, kinds, degree, lower, upper⟩
      · exact absurd ascending inverted
      · rw [Binary64.not_le_iff, lower, zero_defined] at inverted
        have below : region.outerUpper < 0 := by
          rcases inverted with undefined | undefined | below
          · cases undefined
          · rw [Binary64.isFinite_eq_false_iff.mpr (Or.inl undefined)] at finiteUpper
            cases finiteUpper
          · exact below
        exact ⟨root, power, n, alone, ⟨equations, kinds, inner⟩, degree, lower, upper, below⟩
    · obtain ⟨values, -, sorted⟩ := eq_ascending_of_explicitOuterBounds found
      have ascending := Scalar.pairwise_ascending_binary64 values
      rw [← sorted] at ascending
      exact absurd (le_of_sorted ascending finiteLower List.mem_cons_self) inverted
  · rintro ⟨root, power, n, meets⟩
    rw [Binary64.not_le_iff, meets.lower]
    exact Or.inr (Or.inr meets.below)

private theorem describe_root_and_negative_power :
    ∃ region : Region Float,
      (describe [⟨"y", "sqrt(x)"⟩, ⟨"y", "-x^1.5"⟩] :
        Attempt (Event Float) EquationError _).outcome = .ok (some region) ∧
      region.outerLower = 0 ∧ region.outerUpper = -1 := by
  have readsRoot : Row.ReadsAs ⟨"y", "sqrt(x)"⟩ ([.root 1 1] : Equation Float) := by
    decide
  have readsPower : Row.ReadsAs ⟨"y", "-x^1.5"⟩ ([.power (-1) 1.5] : Equation Float) := by
    decide
  have found : (outerBounds (givenBounds [⟨"y", "sqrt(x)"⟩, ⟨"y", "-x^1.5"⟩] .dyDx) :
      Attempt (Event Float) EquationError _).outcome = .ok (some [0, -1]) := by
    decide +kernel
  have described := outcome_describe rfl (by decide) readsRoot readsPower found
  have pair : finitePair [(0 : Float), -1] = some (0, -1) := by decide
  rw [Option.bind_some, pair] at described
  exact ⟨_, described, rfl, rfl⟩

/-- A region whose outer bounds are out of order. -/
theorem exists_inverted_region :
    ∃ region : Region Float,
      (describe [⟨"y", "sqrt(x)"⟩, ⟨"y", "-x^1.5"⟩] :
        Attempt (Event Float) EquationError _).outcome = .ok (some region) ∧
      region.outerLower = 0 ∧ region.outerUpper = -1 ∧
      ¬ region.outerLower ≤ region.outerUpper := by
  obtain ⟨region, described, lower, upper⟩ := describe_root_and_negative_power
  refine ⟨region, described, lower, upper, ?_⟩
  rw [lower, upper]
  decide +kernel

/-- The bounds of that region are zero and a meeting point below zero. -/
theorem exists_region_meeting_below_zero :
    ∃ region : Region Float,
      (describe [⟨"y", "sqrt(x)"⟩, ⟨"y", "-x^1.5"⟩] :
        Attempt (Event Float) EquationError _).outcome = .ok (some region) ∧
      ∃ root power n, MeetsBelowZero [⟨"y", "sqrt(x)"⟩, ⟨"y", "-x^1.5"⟩] region root power n := by
  obtain ⟨region, described, lower, upper⟩ := describe_root_and_negative_power
  have inverted : ¬ region.outerLower ≤ region.outerUpper := by
    rw [lower, upper]
    decide +kernel
  exact ⟨region, described, (not_ascending_iff described).mp inverted⟩

end Region
end PlaneRegion
