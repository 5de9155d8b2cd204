import Mathlib.Algebra.BigOperators.Fin
import PlaneRegion.Proofs.Equation.Outcome
import PlaneRegion.Proofs.Region.Difference
import PlaneRegion.Proofs.Region.Quadratic

/-!
# Where any number of bounds meet

The coefficients that are collected from a list of bounds are those of the alternating sum of their
values, and the zeros that are found are all real zeros of this sum, a double one twice.
-/

namespace PlaneRegion

theorem Term.hasDegree_of_degree? {term : Term ℝ} {degree : Fin 3}
    (found : term.degree? = some degree) : term.HasDegree degree := by
  unfold degree? at found
  split at found
  · rename_i n power exponent
    refine ⟨power, ?_⟩
    simp only [Scalar.equal_real, Scalar.ofNat_real, decide_eq_true_eq] at found
    split_ifs at found with zero one two
    all_goals
      obtain rfl := Option.some.inj found
      rw [exponent]
    · simp [zero]
    · simp [one]
    · simp [two]
  · cases found

theorem Term.degree?_eq_none_iff {term : Term ℝ} :
    term.degree? = none ↔ ¬∃ degree, term.HasDegree degree := by
  constructor
  · rintro unknown ⟨degree, known⟩
    rw [Term.degree?_of_hasDegree known] at unknown
    cases unknown
  · intro unknown
    by_contra some
    obtain ⟨degree, found⟩ := Option.ne_none_iff_exists'.mp some
    exact unknown ⟨degree, hasDegree_of_degree? found⟩

namespace Region

/-- The values of bounds, added up with alternating signs: the first one is added. -/
noncomputable def alternatingValue (bounds : List (Equation ℝ)) (t : ℝ) : ℝ :=
  ∑ i : Fin bounds.length, (-1) ^ i.val * bounds[i].evaluate t

@[simp]
theorem alternatingValue_nil (t : ℝ) : alternatingValue [] t = 0 := by
  simp [alternatingValue]

theorem alternatingValue_cons (bound : Equation ℝ) (bounds : List (Equation ℝ)) (t : ℝ) :
    alternatingValue (bound :: bounds) t = bound.evaluate t - alternatingValue bounds t := by
  simp [alternatingValue, Fin.sum_univ_succ, pow_succ, sub_eq_add_neg]

/-- Collecting bounds adds their alternating sum, or subtracts it. -/
theorem exists_alternate_eq_some {bounds : List (Equation ℝ)}
    (powers : ∀ bound ∈ bounds, bound.IsQuadratic) (positive : Bool) (q : Quadratic ℝ) :
    ∃ total, alternate positive q bounds = some total ∧
      ∀ t, total.value t =
        q.value t + (if positive then 1 else -1) * alternatingValue bounds t := by
  induction bounds generalizing positive q with
  | nil => exact ⟨q, rfl, fun t => by simp⟩
  | cons bound bounds induction =>
      obtain ⟨start, added, startValue⟩ :=
        accumulate_eq_some (powers bound List.mem_cons_self) positive q
      obtain ⟨total, collected, value⟩ := induction
        (fun bound member => powers bound (List.mem_cons_of_mem _ member)) (!positive) start
      refine ⟨total, ?_, fun t => ?_⟩
      · rw [alternate, added, Option.bind_some, collected]
      · rw [value, startValue, alternatingValue_cons]
        cases positive <;> simp <;> ring

/-- The bound is what a text is read as. -/
def IsRead (bound : Equation ℝ) : Prop :=
  ∃ text, (Equation.read text : Attempt (Event ℝ) EquationError (Equation ℝ)).outcome = .ok bound

/-- The coefficients of bounds that are read are those of their alternating sum. -/
theorem value_of_difference {bounds : List (Equation ℝ)} (read : ∀ bound ∈ bounds, IsRead bound)
    {q : Quadratic ℝ} (found : difference bounds = some q) (t : ℝ) :
    q.value t = alternatingValue bounds t := by
  have powers : ∀ bound ∈ bounds, bound.IsQuadratic := by
    intro bound member term inside
    obtain ⟨text, accepted⟩ := read bound member
    have known : term.degree? ≠ none := by
      intro unknown
      have missing := (difference_eq_none_iff bounds).mpr ⟨bound, member, term, inside, unknown⟩
      rw [missing] at found
      cases found
    obtain ⟨degree, degree_eq⟩ := Option.ne_none_iff_exists'.mp known
    have power := Term.hasDegree_of_degree? degree_eq
    have plain := Equation.scale_of_mem_of_outcome_read accepted inside
      (by simp [Term.isPower, power.1])
    exact ⟨by simpa using plain, degree, power⟩
  obtain ⟨total, collected, value⟩ :=
    exists_alternate_eq_some powers true ⟨Scalar.ofNat 0, Scalar.ofNat 0, Scalar.ofNat 0⟩
  obtain rfl : total = q := Option.some.inj (collected.symm.trans found)
  rw [value]
  simp [Quadratic.value]

/-- A quadratic of degree two is the product of the distances from its two zeros. -/
theorem value_eq_of_two_zeros {q : Quadratic ℝ} (curved : q.square ≠ 0) {lower upper : ℝ}
    (found : (zeros q : Traced (Event ℝ) _).value = some [lower, upper]) (t : ℝ) :
    q.value t = q.square * ((t - lower) * (t - upper)) := by
  have real := ((areZeros_of_zeros found).quadratic curved).1
  rw [zeros_value, if_neg curved, if_neg (not_lt.mpr real), Option.some_inj] at found
  have sorted : (zerosFrom q √(discrim q.square q.linear q.constant)).Perm _ :=
    Scalar.ascending_perm _
  rw [found] at sorted
  have sum := sorted.sum_eq
  have product := sorted.prod_eq
  have square := Real.sq_sqrt real
  generalize √(discrim q.square q.linear q.constant) = radical at sum product square
  simp only [List.sum_cons, List.prod_cons, List.sum_nil, List.prod_nil, Scalar.ofNat_real,
    Nat.cast_ofNat, add_zero, mul_one] at sum product
  have sum_eq : q.square * (lower + upper) = -q.linear := by
    rw [sum]
    field_simp
    ring
  have product_eq : q.square * (lower * upper) = q.constant := by
    rw [product]
    field_simp
    rw [discrim] at square
    linarith
  rw [Quadratic.value]
  linear_combination t * sum_eq - product_eq

/-- The zeros of a quadratic are equal exactly if its discriminant vanishes. -/
theorem eq_iff_discrim_eq_zero {q : Quadratic ℝ} (curved : q.square ≠ 0) {lower upper : ℝ}
    (factors : ∀ t, q.value t = q.square * ((t - lower) * (t - upper))) :
    lower = upper ↔ discrim q.square q.linear q.constant = 0 := by
  obtain ⟨-, linear, constant⟩ := Quadratic.eq_of_value (q := q) (a := q.square)
    (b := -(q.square * (lower + upper))) (c := q.square * (lower * upper))
    fun t => (factors t).trans (by ring)
  have square : discrim q.square q.linear q.constant = (q.square * (lower - upper)) ^ 2 := by
    rw [discrim, linear, constant]
    ring
  rw [square, sq_eq_zero_iff, mul_eq_zero, or_iff_right curved, sub_eq_zero]

/-- Bounds have no difference exactly if one of their terms is no power of degree zero, one or two.
Otherwise their difference has the coefficients of their alternating sum, no zeros are found exactly
if this sum is constant or has no real zero, and what is found else are all its real zeros in
ascending order: one zero of a linear sum, and two of a quadratic one, which are equal exactly if
the zero is double. -/
theorem difference_and_zeros {bounds : List (Equation ℝ)} (read : ∀ bound ∈ bounds, IsRead bound) :
    (difference bounds = none ↔
      ∃ bound ∈ bounds, ∃ term ∈ bound, ¬∃ degree, term.HasDegree degree) ∧
    ∀ q ∈ difference bounds,
      (∀ t, q.constant + q.linear * t + q.square * t ^ 2 = alternatingValue bounds t) ∧
      ((zeros q : Traced (Event ℝ) _).value = none ↔
        (∃ k, ∀ t, alternatingValue bounds t = k) ∨ ∀ t, alternatingValue bounds t ≠ 0) ∧
      ∀ roots ∈ (zeros q : Traced (Event ℝ) _).value,
        roots.Pairwise (· ≤ ·) ∧ (∀ t, t ∈ roots ↔ alternatingValue bounds t = 0) ∧
        (q.square = 0 → ∃ root, roots = [root]) ∧
        (q.square ≠ 0 → ∃ lower upper, roots = [lower, upper] ∧
          (lower = upper ↔ discrim q.square q.linear q.constant = 0) ∧
          ∀ t, alternatingValue bounds t = q.square * ((t - lower) * (t - upper))) := by
  constructor
  · rw [difference_eq_none_iff]
    simp only [Term.degree?_eq_none_iff]
  intro q found
  have value := value_of_difference read found
  refine ⟨fun t => ?_, ?_, fun roots solved => ?_⟩
  · rw [← value, Quadratic.value]
    ring
  · rw [Option.eq_none_iff_forall_ne_some, ← not_exists_not]
    simp only [not_not, exists_zeros_iff, value]
    tauto
  · have all := areZeros_of_zeros solved
    refine ⟨all.ascending, fun t => ?_, fun flat => ?_, fun curved => ?_⟩
    · rw [all.mem_iff, value]
    · exact List.length_eq_one_iff.mp (all.linear flat).2
    · obtain ⟨lower, upper, rfl⟩ := List.length_eq_two.mp (all.quadratic curved).2
      have factors := value_eq_of_two_zeros curved solved
      exact ⟨lower, upper, rfl, eq_iff_discrim_eq_zero curved factors,
        fun t => (value t).symm.trans (factors t)⟩

/-- The three bounds `x^2`, `4` and `3x`. -/
noncomputable def threeBounds : List (Equation ℝ) :=
  [[Term.power (Scalar.ofDecimal ⟨false, 1, 0⟩) (Scalar.ofDecimal ⟨false, 2, 0⟩)],
    [Term.constant (Scalar.ofDecimal ⟨false, 4, 0⟩)],
    [Term.linear (Scalar.ofDecimal ⟨false, 3, 0⟩)]]

private theorem alternatingValue_threeBounds (t : ℝ) :
    alternatingValue threeBounds t = (t + 4) * (t - 1) := by
  simp only [threeBounds, alternatingValue_cons, alternatingValue_nil]
  simp [Equation.evaluate, Scalar.sum_real, Term.evaluate, Term.power, Term.constant, Term.linear,
    Scalar.ofDecimal]
  ring

private theorem exists_hasDegree_of_mem_threeBounds :
    ∀ bound ∈ threeBounds, ∀ term ∈ bound, ∃ degree, term.HasDegree degree := by
  simp only [threeBounds, List.forall_mem_cons]
  refine ⟨⟨⟨2, rfl, ?_⟩, by simp⟩, ⟨⟨0, rfl, ?_⟩, by simp⟩, ⟨⟨1, rfl, ?_⟩, by simp⟩, by simp⟩ <;>
    simp [Term.power, Term.constant, Term.linear, Scalar.ofDecimal]

/-- The sum `x^2 - 4 + 3x` of three bounds vanishes at `-4` and at `1`. -/
theorem zeros_of_three_bounds :
    ∃ q roots, (difference threeBounds = some q ∧
      (zeros q : Traced (Event ℝ) _).value = some roots) ∧
      ∀ t, t ∈ roots ↔ t = -4 ∨ t = 1 := by
  have read : ∀ bound ∈ threeBounds, IsRead bound := by
    simp only [threeBounds, List.forall_mem_cons]
    exact ⟨⟨"x^2", rfl⟩, ⟨"4", rfl⟩, ⟨"3x", rfl⟩, by simp⟩
  obtain ⟨unknown_iff, known⟩ := difference_and_zeros read
  cases found : difference threeBounds with
  | none =>
      obtain ⟨bound, member, term, inside, unknown⟩ := unknown_iff.mp found
      exact absurd (exists_hasDegree_of_mem_threeBounds bound member term inside) unknown
  | some q =>
      obtain ⟨-, none_iff, all⟩ := known q found
      cases solved : (zeros q : Traced (Event ℝ) _).value with
      | none =>
          simp only [alternatingValue_threeBounds] at none_iff
          rcases none_iff.mp solved with ⟨k, constant⟩ | free
          · have atZero := constant 0
            have atOne := constant 1
            linarith
          · exact absurd (by ring) (free 1)
      | some roots =>
          obtain ⟨-, mem_iff, -⟩ := all roots solved
          refine ⟨q, roots, ⟨rfl, solved⟩, fun t => ?_⟩
          rw [mem_iff, alternatingValue_threeBounds, mul_eq_zero, sub_eq_zero,
            add_eq_zero_iff_eq_neg]

end Region
end PlaneRegion
