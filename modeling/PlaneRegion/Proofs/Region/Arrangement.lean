import PlaneRegion.Proofs.Region.Difference
import PlaneRegion.Proofs.Region.Outcome

/-!
# The order of the rows

The outer bounds of a region do not depend on the order in which the rows are entered, with one
exception. When three or more polynomials bound the inner variable, every second one is subtracted,
so the bounds depend on which polynomials stand in the even places and which in the odd ones; they
do not depend on which of the two groups comes first, nor on the order inside a group.
-/

namespace PlaneRegion
namespace Region

/-- Two lists have the same members in the places of one kind and in those of the other, or in
exchanged places. -/
def SidesKept {β : Type} (items others : List β) : Prop :=
  (sides items).1.Perm (sides others).1 ∧ (sides items).2.Perm (sides others).2 ∨
    (sides items).1.Perm (sides others).2 ∧ (sides items).2.Perm (sides others).1

theorem SidesKept.map {β γ : Type} {items others : List β} (kept : SidesKept items others)
    (f : β → γ) : SidesKept (items.map f) (others.map f) := by
  unfold SidesKept
  rw [sides_map, sides_map]
  rcases kept with ⟨even, odd⟩ | ⟨even, odd⟩
  · exact Or.inl ⟨even.map f, odd.map f⟩
  · exact Or.inr ⟨even.map f, odd.map f⟩

/-- A pair has two arrangements. -/
theorem eq_or_eq_of_perm_pair {β : Type} {first second : β} {others : List β}
    (same : [first, second].Perm others) :
    others = [first, second] ∨ others = [second, first] := by
  obtain ⟨a, b, rfl⟩ := List.length_eq_two.mp same.length_eq.symm
  rcases List.mem_pair.mp (same.mem_iff.mp List.mem_cons_self) with rfl | rfl
  · have rest := List.singleton_perm_singleton.mp ((List.perm_cons _).mp same)
    rw [rest]
    exact Or.inl rfl
  · have rest := List.singleton_perm_singleton.mp
      ((List.perm_cons _).mp (same.trans (List.Perm.swap _ _ _)))
    rw [rest]
    exact Or.inr rfl

theorem sidesKept_of_length_le_two {β : Type} {items others : List β}
    (same : items.Perm others) (few : items.length ≤ 2) : SidesKept items others := by
  match items with
  | [] =>
      rw [same.nil_eq]
      exact Or.inl ⟨.rfl, .rfl⟩
  | [_] =>
      rw [List.singleton_perm.mp same]
      exact Or.inl ⟨.rfl, .rfl⟩
  | [_, _] =>
      rcases eq_or_eq_of_perm_pair same with rfl | rfl
      · exact Or.inl ⟨.rfl, .rfl⟩
      · exact Or.inr ⟨.rfl, .rfl⟩
  | _ :: _ :: _ :: _ => simp at few

/-! ## Intersections of rearranged bounds -/

section

variable {α : Type} [Scalar α]

theorem isPlainPower_of_isRoot {term : Term α} (root : term.isRoot = true) :
    isPlainPower term = false := by
  rw [Term.isRoot, beq_iff_eq] at root
  rw [isPlainPower, Term.isPower, root]
  rfl

theorem rootAndPower_swap (first second : Equation α) :
    rootAndPower [first, second] = rootAndPower [second, first] := by
  match first, second with
  | [first], [second] =>
      cases rootFirst : first.isRoot with
      | false => cases rootSecond : second.isRoot <;> simp [rootAndPower, rootFirst, rootSecond]
      | true =>
          have plain := isPlainPower_of_isRoot rootFirst
          simp [rootAndPower, rootFirst, plain]
  | [], [] | [], [_] | [], _ :: _ :: _ | [_], [] | [_], _ :: _ :: _ => rfl
  | _ :: _ :: _, [] | _ :: _ :: _, [_] | _ :: _ :: _, _ :: _ :: _ => rfl

theorem rootAndPower_perm {bounds others : List (Equation α)} (same : bounds.Perm others) :
    rootAndPower bounds = rootAndPower others := by
  have single : ∀ list : List (Equation α), list.length ≠ 2 → rootAndPower list = none := by
    intro list length
    unfold rootAndPower
    split
    · exact absurd rfl length
    · rfl
  by_cases two : bounds.length = 2
  · obtain ⟨first, second, rfl⟩ := List.length_eq_two.mp two
    rcases eq_or_eq_of_perm_pair same with rfl | rfl
    · rfl
    · exact rootAndPower_swap first second
  · rw [single bounds two, single others (same.length_eq ▸ two)]

theorem difference_eq_none_of_perm {bounds others : List (Equation α)}
    (same : bounds.Perm others) (undetermined : difference bounds = none) :
    difference others = none := by
  rw [difference_eq_none_iff] at undetermined ⊢
  obtain ⟨equation, member, stray⟩ := undetermined
  exact ⟨equation, same.mem_iff.mp member, stray⟩

end

/-- Rearranged bounds have no difference, the same one, or the opposite one. -/
theorem difference_of_perm {bounds others : List (Equation PartialReal)}
    (same : bounds.Perm others) (kept : difference bounds ≠ none → SidesKept bounds others) :
    difference others = difference bounds ∨
      difference others = (difference bounds).map Quadratic.negated := by
  by_cases stray : difference bounds = none
  · rw [stray, difference_eq_none_of_perm same stray]
    exact Or.inl rfl
  · rcases kept stray with ⟨even, odd⟩ | ⟨even, odd⟩
    · exact Or.inl (difference_eq_of_sides even odd).symm
    · exact Or.inr (difference_of_exchanged_sides even odd)

theorem intersections_perm {bounds others : List (Equation PartialReal)}
    (same : bounds.Perm others) (kept : difference bounds ≠ none → SidesKept bounds others) :
    (intersections others : Traced (Event PartialReal) _).value =
      (intersections bounds : Traced (Event PartialReal) _).value := by
  unfold intersections
  rw [← rootAndPower_perm same]
  rcases difference_of_perm same kept with equal | opposite
  · rw [equal]
  · rw [opposite]
    cases difference bounds with
    | none => rfl
    | some q => exact zeros_negated q

theorem differByUndefined_perm {bounds others : List (Equation PartialReal)}
    (same : bounds.Perm others) (kept : difference bounds ≠ none → SidesKept bounds others) :
    differByUndefined others = differByUndefined bounds := by
  unfold differByUndefined
  rcases difference_of_perm same kept with equal | opposite
  · rw [equal]
  · rw [opposite]
    cases difference bounds with
    | none => rfl
    | some q =>
        obtain ⟨constant, linear, square⟩ := q
        cases constant with
        | none => rfl
        | some constant => simp [Quadratic.negated]

theorem constants_perm {equations others : List (Equation PartialReal)}
    (same : equations.Perm others) :
    (constants others).map Scalar.ascending = (constants equations).map Scalar.ascending := by
  unfold constants
  rw [same.all_eq]
  split_ifs
  · exact congrArg some (PartialReal.ascending_eq_of_perm (same.symm.map _))
  · rfl

/-- The order of the equations makes no difference to the outer bounds, unless three or more
polynomials are concerned. -/
theorem outerOf_perm {inner innerOthers outer outerOthers : List (Equation PartialReal)}
    (sameInner : inner.Perm innerOthers) (sameOuter : outer.Perm outerOthers)
    (kept : 3 ≤ inner.length → outer.length < 2 → outer.all isConstant = true →
      difference inner ≠ none → SidesKept inner innerOthers) :
    outerOf innerOthers outerOthers = outerOf inner outer := by
  unfold outerOf
  rw [← sameInner.length_eq, ← sameOuter.length_eq, constants_perm sameOuter]
  split_ifs with derivable
  · by_cases constant : outer.all isConstant = true
    · have sidesKept : difference inner ≠ none → SidesKept inner innerOthers := by
        intro polynomial
        by_cases many : 3 ≤ inner.length
        · exact kept many derivable.2 constant polynomial
        · exact sidesKept_of_length_le_two sameInner (by omega)
      rw [intersections_perm sameInner sidesKept, differByUndefined_perm sameInner sidesKept]
    -- A bound that is no constant leaves no region, whatever the inner bounds are.
    · rw [constants, if_neg constant]
      rfl
  · rfl
  · rfl

/-! ## Regions of rearranged rows -/

/-- Three or more rows bound the inner variable, all of them sums of powers of degree zero, one or
two, and at most one row bounds the outer variable, a constant if there is one. -/
structure ManyPolynomials (rows : List Row) (order : IntegrationOrder) : Prop where
  ordered : (integrationOrder rows : Traced (Event PartialReal) _).value = some order
  many : 3 ≤ rows.countP (isRowOf order.inner)
  few : rows.countP (isRowOf order.outer) < 2
  constant : ∀ row ∈ rows, isRowOf order.outer row = true →
    ∀ equation : Equation PartialReal, row.ReadsAs equation → isConstant equation = true
  powers : ∀ row ∈ rows, isRowOf order.inner row = true →
    ∀ equation : Equation PartialReal, row.ReadsAs equation →
      ∀ term ∈ equation, ∃ degree, term.degree? = some degree

theorem integrationOrder_perm {α : Type} {rows others : List Row} (same : rows.Perm others) :
    (integrationOrder others : Traced (Event α) _).value =
      (integrationOrder rows : Traced (Event α) _).value := by
  change orderOf _ _ = orderOf _ _
  rw [same.countP_eq, same.countP_eq]

/-- Rows that can be read describe, in any order, regions with the same outer bounds, or none in
either order. Three or more polynomials for the inner variable have to keep their sides. -/
theorem describe_perm {rows others : List Row} (same : rows.Perm others)
    (readable : Readable PartialReal rows)
    (kept : ∀ order, ManyPolynomials rows order →
      SidesKept (rows.filter (isRowOf order.inner)) (others.filter (isRowOf order.inner))) :
    ∃ result other,
      (describe rows : Attempt (Event PartialReal) EquationError _).outcome = .ok result ∧
      (describe others : Attempt (Event PartialReal) EquationError _).outcome = .ok other ∧
      result.map outerEnds = other.map outerEnds := by
  have readableOthers : Readable PartialReal others :=
    fun row member => readable row (same.mem_iff.mpr member)
  obtain ⟨result, described, ends⟩ := readable.exists_outcome_describe
  obtain ⟨other, describedOther, endsOther⟩ := readableOthers.exists_outcome_describe
  refine ⟨result, other, described, describedOther, ?_⟩
  rw [ends, endsOther, integrationOrder_perm same]
  cases ordered : (integrationOrder rows : Traced (Event PartialReal) _).value with
  | none => rfl
  | some order =>
      simp only [Option.bind_some]
      congr 1
      symm
      apply outerOf_perm ((same.filter _).map _) ((same.filter _).map _)
      intro many few constant polynomial
      apply SidesKept.map
      apply kept order
      refine ⟨ordered, ?_, ?_, ?_, ?_⟩
      · rwa [List.length_map, ← List.countP_eq_length_filter] at many
      · rwa [List.length_map, ← List.countP_eq_length_filter] at few
      · intro row present tagged equation reads
        refine List.all_eq_true.mp constant equation (List.mem_map.mpr ⟨row, ?_, reading_eq reads⟩)
        exact List.mem_filter.mpr ⟨present, tagged⟩
      · intro row present tagged equation reads term member
        apply Option.ne_none_iff_exists'.mp
        intro stray
        apply polynomial
        rw [difference_eq_none_iff]
        refine ⟨equation, List.mem_map.mpr ⟨row, ?_, reading_eq reads⟩, term, member, stray⟩
        exact List.mem_filter.mpr ⟨present, tagged⟩

/-- With the two rows in the even places exchanged, the region between a parabola and two level
lines keeps its outer bounds. -/
theorem describe_parabola_and_levels_perm :
    let rows : List Row := [⟨"y", "x^2"⟩, ⟨"y", "5"⟩, ⟨"", ""⟩, ⟨"y", "4"⟩]
    let others : List Row := [⟨"y", "4"⟩, ⟨"", ""⟩, ⟨"y", "5"⟩, ⟨"y", "x^2"⟩]
    rows.Perm others ∧ Readable PartialReal rows ∧ ∃ result other,
      (describe rows : Attempt (Event PartialReal) EquationError _).outcome = .ok result ∧
      (describe others : Attempt (Event PartialReal) EquationError _).outcome = .ok other ∧
      result.map outerEnds = other.map outerEnds := by
  intro rows others
  have same : rows.Perm others := by decide
  have readable : Readable PartialReal rows := by
    simp only [rows, Readable, List.forall_mem_cons]
    exact ⟨fun _ => ⟨_, rfl⟩, fun _ => ⟨_, rfl⟩, fun filled => (by cases filled), fun _ => ⟨_, rfl⟩,
      List.forall_mem_nil _⟩
  refine ⟨same, readable, describe_perm same readable fun order _ => ?_⟩
  cases order with
  | dyDx => exact Or.inl ⟨by decide, by decide⟩
  | dxDy => exact Or.inl ⟨by decide, by decide⟩

/-! ## An exchange of sides -/

private theorem zeros_of_level {constant square : ℝ} (root : ℝ) (curved : square ≠ 0)
    (positive : 0 ≤ root) (known : -(4 * square * constant) = root * root) :
    (zeros ⟨some constant, some 0, some square⟩ : Traced (Event PartialReal) _).value =
      some (Scalar.ascending [some (-root / (2 * square)), some (root / (2 * square))]) := by
  have radicand : discriminant (⟨some constant, some 0, some square⟩ : Quadratic PartialReal) =
      some (root * root) := by
    rw [← known]
    simp [discriminant]
  have radical : Scalar.sqrt (some (root * root)) = (some root : PartialReal) :=
    PartialReal.sqrt_eq_some_iff.mpr ⟨_, rfl, mul_self_nonneg root, Real.sqrt_mul_self positive⟩
  have divided : ∀ x : ℝ, (some x / (Scalar.ofNat 2 * some square) : PartialReal) =
      some (x / (2 * square)) := by
    intro x
    exact PartialReal.div_eq_some_iff.mpr ⟨_, _, rfl, by simp, by simpa using curved, rfl⟩
  have real : (Scalar.less (some (root * root) : PartialReal) (Scalar.ofNat 0) ||
      !Scalar.isFinite (some (root * root) : PartialReal)) = false := by
    simpa using mul_self_nonneg root
  have bent : Scalar.equal (some square : PartialReal) (Scalar.ofNat 0) = false := by
    simpa using curved
  simp only [zeros, radicand, radical, real, bent, Bool.false_eq_true, if_false, zerosFrom,
    PartialReal.neg_some, PartialReal.sub_some, PartialReal.add_some, divided]
  simp

private theorem exists_region {rows : List Row} {first second third : Row}
    {f g h : Equation PartialReal} {q : Quadratic PartialReal} {lower upper : ℝ}
    (readable : Readable PartialReal rows)
    (ordered : (integrationOrder rows : Traced (Event PartialReal) _).value = some .dyDx)
    (inner : rows.filter (isRowOf .y) = [first, second, third])
    (outer : rows.filter (isRowOf .x) = [])
    (readsFirst : first.ReadsAs f) (readsSecond : second.ReadsAs g) (readsThird : third.ReadsAs h)
    (subtracted : difference [f, g, h] = some q)
    (solved : (zeros q : Traced (Event PartialReal) _).value = some [some lower, some upper]) :
    ∃ region : Region PartialReal,
      (describe rows : Attempt (Event PartialReal) EquationError _).outcome = .ok (some region) ∧
      outerEnds region = (some lower, some upper) := by
  have found : outerOf [f, g, h] [] = some [some lower, some upper] := by
    rw [outerOf_nil (by simp), intersections, subtracted, ← solved]
    rfl
  have innerRead : (rows.filter (isRowOf .y)).map (reading PartialReal) = [f, g, h] := by
    rw [inner, ← reading_eq readsFirst, ← reading_eq readsSecond, ← reading_eq readsThird]
    rfl
  have outerRead : (rows.filter (isRowOf .x)).map (reading PartialReal) = [] := by
    rw [outer, List.map_nil]
  obtain ⟨result, described, ends⟩ := readable.exists_outcome_describe
  rw [ordered, Option.bind_some] at ends
  change _ = (outerOf ((rows.filter (isRowOf .y)).map _) ((rows.filter (isRowOf .x)).map _)).bind _
    at ends
  rw [innerRead, outerRead, found, Option.bind_some] at ends
  obtain ⟨region, rfl, same⟩ := Option.map_eq_some_iff.mp ends
  exact ⟨region, described, same⟩

private noncomputable def squared : Equation PartialReal :=
  [Term.power (Scalar.ofDecimal ⟨false, 1, 0⟩) (Scalar.ofDecimal ⟨false, 2, 0⟩)]

private noncomputable def levelLine (height : Nat) : Equation PartialReal :=
  [Term.constant (Scalar.ofDecimal ⟨false, height, 0⟩)]

/-- A parabola and two level lines in two orders: first the lower line is on the side of the
parabola, then both lines are on one side. -/
theorem exists_rearranged_region :
    let rows : List Row := [⟨"y", "x^2"⟩, ⟨"y", "5"⟩, ⟨"y", "4"⟩]
    let others : List Row := [⟨"y", "5"⟩, ⟨"y", "x^2"⟩, ⟨"y", "4"⟩]
    rows.Perm others ∧ Readable PartialReal rows ∧ ∃ region other : Region PartialReal,
      (describe rows : Attempt (Event PartialReal) EquationError _).outcome = .ok (some region) ∧
      (describe others : Attempt (Event PartialReal) EquationError _).outcome = .ok (some other) ∧
      outerEnds region = (some (-1), some 1) ∧ outerEnds other = (some (-3), some 3) ∧
      outerEnds region ≠ outerEnds other := by
  intro rows others
  have same : rows.Perm others := by decide
  have readsParabola : Row.ReadsAs ⟨"y", "x^2"⟩ squared := rfl
  have readsFive : Row.ReadsAs ⟨"y", "5"⟩ (levelLine 5) := rfl
  have readsFour : Row.ReadsAs ⟨"y", "4"⟩ (levelLine 4) := rfl
  have readable : Readable PartialReal rows := by
    simp only [rows, Readable, List.forall_mem_cons]
    exact ⟨fun _ => ⟨_, readsParabola⟩, fun _ => ⟨_, readsFive⟩, fun _ => ⟨_, readsFour⟩,
      List.forall_mem_nil _⟩
  have readableOthers : Readable PartialReal others :=
    fun row member => readable row (same.mem_iff.mpr member)
  have near : difference [squared, levelLine 5, levelLine 4] =
      some ⟨some (-1), some 0, some 1⟩ := by
    norm_num [difference, alternate, accumulate, squared, levelLine, Term.power, Term.constant,
      Term.degree?, PartialReal.ofDecimal_whole, Quadratic.adjust]
  have far : difference [levelLine 5, squared, levelLine 4] =
      some ⟨some 9, some 0, some (-1)⟩ := by
    norm_num [difference, alternate, accumulate, squared, levelLine, Term.power, Term.constant,
      Term.degree?, PartialReal.ofDecimal_whole, Quadratic.adjust]
  have solvedNear : (zeros ⟨some (-1), some 0, some 1⟩ : Traced (Event PartialReal) _).value =
      some [some (-1), some 1] := by
    have ends : (-2 : ℝ) / (2 * 1) = -1 ∧ (2 : ℝ) / (2 * 1) = 1 := by norm_num
    rw [zeros_of_level 2 one_ne_zero zero_le_two (by norm_num), ends.1, ends.2,
      PartialReal.ascending_pair (by norm_num)]
  have solvedFar : (zeros ⟨some 9, some 0, some (-1)⟩ : Traced (Event PartialReal) _).value =
      some [some (-3), some 3] := by
    have ends : (-6 : ℝ) / (2 * -1) = 3 ∧ (6 : ℝ) / (2 * -1) = -3 := by norm_num
    rw [zeros_of_level 6 (by norm_num) (by norm_num) (by norm_num), ends.1, ends.2,
      PartialReal.ascending_eq_of_perm (List.Perm.swap _ _ _),
      PartialReal.ascending_pair (by norm_num)]
  obtain ⟨region, described, ends⟩ :=
    exists_region readable rfl rfl rfl readsParabola readsFive readsFour near solvedNear
  obtain ⟨other, describedOther, endsOther⟩ :=
    exists_region readableOthers rfl rfl rfl readsFive readsParabola readsFour far solvedFar
  refine ⟨same, readable, region, other, described, describedOther, ends, endsOther, ?_⟩
  rw [ends, endsOther]
  norm_num

end Region
end PlaneRegion
