import Mathlib.Algebra.QuadraticDiscriminant
import Mathlib.Topology.Order.IntermediateValue
import PlaneRegion.Proofs.Scalar.Real
import PlaneRegion.Region.Intersection

/-!
# Quadratics and their zeros

Over the real numbers the coefficients that are accumulated from two bounds are those of their
difference, and its zeros are found exactly.
-/

namespace PlaneRegion

namespace Quadratic

/-- The value of a quadratic. -/
def value (q : Quadratic ℝ) (t : ℝ) : ℝ :=
  q.square * (t * t) + q.linear * t + q.constant

theorem value_adjust (q : Quadratic ℝ) (degree : Fin 3) (change t : ℝ) :
    (q.adjust degree (· + change)).value t = q.value t + change * t ^ degree.val := by
  match degree with
  | 0 => simp [adjust, value, add_assoc]
  | 1 =>
      simp only [adjust, value, Fin.val_one, pow_one]
      ring
  | 2 =>
      simp only [adjust, value, Fin.val_two]
      ring

/-- A quadratic has only one list of coefficients. -/
theorem eq_of_value {q : Quadratic ℝ} {a b c : ℝ}
    (same : ∀ t, q.value t = a * (t * t) + b * t + c) :
    q.square = a ∧ q.linear = b ∧ q.constant = c := by
  have atZero := same 0
  have atOne := same 1
  have atMinusOne := same (-1)
  simp only [value] at atZero atOne atMinusOne
  refine ⟨?_, ?_, ?_⟩ <;> linarith

/-- A quadratic is constant if only its constant coefficient counts. -/
theorem exists_value_eq_iff (q : Quadratic ℝ) :
    (∃ k, ∀ t, q.value t = k) ↔ q.square = 0 ∧ q.linear = 0 := by
  constructor
  · rintro ⟨k, same⟩
    have coefficients := eq_of_value (q := q) (a := 0) (b := 0) (c := k) (by simpa using same)
    exact ⟨coefficients.1, coefficients.2.1⟩
  · rintro ⟨flat, level⟩
    exact ⟨q.constant, fun t => by simp [value, flat, level]⟩

theorem continuous_value (q : Quadratic ℝ) : Continuous q.value := by
  unfold value
  fun_prop

end Quadratic

/-- A continuous function without a zero between two numbers keeps between them the sign that it
has in the middle. -/
theorem nonpos_of_middle {h : ℝ → ℝ} (continuous : Continuous h) {lower upper : ℝ}
    (free : ∀ t, lower < t → t < upper → h t ≠ 0) (middle : h ((lower + upper) / 2) ≤ 0) :
    ∀ t ∈ Set.Icc lower upper, h t ≤ 0 := by
  rintro t ⟨above, below⟩
  by_contra! positive
  obtain same | apart := (above.trans below).eq_or_lt
  · obtain rfl : t = (lower + upper) / 2 := by linarith
    exact absurd middle (not_le.mpr positive)
  · obtain ⟨zero, between, vanishes⟩ : (0 : ℝ) ∈ h '' Set.uIcc ((lower + upper) / 2) t :=
      intermediate_value_uIcc continuous.continuousOn
        (Set.mem_uIcc.mpr (Or.inl ⟨middle, positive.le⟩))
    have differs : zero ≠ t := by
      rintro rfl
      exact absurd vanishes positive.ne'
    refine free zero ?_ ?_ vanishes
    · rcases Set.mem_uIcc.mp between with ⟨first, last⟩ | ⟨first, last⟩
      · linarith
      · exact above.trans_lt (lt_of_le_of_ne first differs.symm)
    · rcases Set.mem_uIcc.mp between with ⟨first, last⟩ | ⟨first, last⟩
      · exact (lt_of_le_of_ne last differs).trans_le below
      · linarith

namespace Term

/-- The term is a power of the given degree. -/
def HasDegree (term : Term ℝ) (degree : Fin 3) : Prop :=
  term.operation = .power ∧ term.exponent = some (degree.val : ℝ)

theorem degree?_of_hasDegree {term : Term ℝ} {degree : Fin 3} (known : term.HasDegree degree) :
    term.degree? = some degree := by
  unfold degree?
  rw [known.1, known.2]
  match degree with
  | 0 => simp
  | 1 => simp
  | 2 => simp

/-- The value of a power of the variable itself. -/
theorem evaluate_of_hasDegree {term : Term ℝ} {degree : Fin 3} (plain : term.scale = 1)
    (known : term.HasDegree degree) (t : ℝ) :
    term.evaluate t = term.coefficient * t ^ degree.val := by
  unfold evaluate
  rw [known.1, known.2, plain]
  match degree with
  | 0 => simp
  | 1 => simp
  | 2 => simp

end Term

/-- A polynomial of degree at most two: a sum of powers of the variable itself. -/
def Equation.IsQuadratic (equation : Equation ℝ) : Prop :=
  ∀ term ∈ equation, term.scale = 1 ∧ ∃ degree, term.HasDegree degree

theorem Equation.evaluate_cons (term : Term ℝ) (equation : Equation ℝ) (t : ℝ) :
    Equation.evaluate (term :: equation) t = term.evaluate t + Equation.evaluate equation t := by
  simp only [Equation.evaluate, Scalar.sum_real, List.map_cons, List.sum_cons]

namespace Region

/-- Accumulating an equation adds its values, or subtracts them. -/
theorem accumulate_eq_some {equation : Equation ℝ} (powers : equation.IsQuadratic)
    (positive : Bool) (q : Quadratic ℝ) :
    ∃ total, accumulate positive q equation = some total ∧
      ∀ t, total.value t = q.value t + (if positive then 1 else -1) * equation.evaluate t := by
  induction equation generalizing q with
  | nil =>
      refine ⟨q, rfl, fun t => ?_⟩
      simp [Equation.evaluate, Scalar.sum_real]
  | cons term equation induction =>
      obtain ⟨plain, degree, known⟩ := powers term List.mem_cons_self
      have later : Equation.IsQuadratic equation :=
        fun term member => powers term (List.mem_cons_of_mem _ member)
      let change := (if positive then 1 else -1) * term.coefficient
      have signed : (fun c => if positive then c + term.coefficient else c - term.coefficient) =
          (· + change) := by
        funext c
        cases positive <;> simp [change, sub_eq_add_neg]
      obtain ⟨total, accumulated, valued⟩ := induction later (q.adjust degree (· + change))
      refine ⟨total, ?_, fun t => ?_⟩
      · rw [← accumulated, accumulate, List.foldlM_cons, Term.degree?_of_hasDegree known,
          Option.map_some, signed]
        rfl
      · rw [valued, Quadratic.value_adjust, Equation.evaluate_cons,
          Term.evaluate_of_hasDegree plain known]
        ring

/-- The coefficients that two bounds give are those of their difference. -/
theorem difference_eq_some {first second : Equation ℝ} (firstPowers : first.IsQuadratic)
    (secondPowers : second.IsQuadratic) :
    ∃ q, difference [first, second] = some q ∧
      ∀ t, q.value t = first.evaluate t - second.evaluate t := by
  obtain ⟨start, added, startValue⟩ := accumulate_eq_some firstPowers true ⟨0, 0, 0⟩
  obtain ⟨q, subtracted, value⟩ := accumulate_eq_some secondPowers false start
  refine ⟨q, ?_, fun t => ?_⟩
  · simpa [difference, alternate, added] using subtracted
  · rw [value, startValue]
    simp [Quadratic.value, sub_eq_add_neg]

theorem discriminant_real (q : Quadratic ℝ) :
    discriminant q = discrim q.square q.linear q.constant := by
  simp [discriminant, discrim, sq]

/-- The zeros of a linear function and of a quadratic with a real radical. -/
theorem zeros_value (q : Quadratic ℝ) :
    (zeros q : Traced (Event ℝ) _).value =
      if q.square = 0 then if q.linear = 0 then none else some [-q.constant / q.linear]
      else if discrim q.square q.linear q.constant < 0 then none
      else some (zerosFrom q √(discrim q.square q.linear q.constant)) := by
  simp only [zeros, discriminant_real, Scalar.equal_real, Scalar.less_real, Scalar.isFinite_real,
    Scalar.ofNat_real, Scalar.sqrt_real, decide_eq_true_eq, Nat.cast_zero, Bool.not_true,
    Bool.or_false]
  split_ifs <;> rfl

/-- The zeros that are found are all zeros in ascending order, as many as the degree. -/
structure AreZeros (q : Quadratic ℝ) (roots : List ℝ) : Prop where
  mem_iff : ∀ t, t ∈ roots ↔ q.value t = 0
  ascending : roots.Pairwise (· ≤ ·)
  linear : q.square = 0 → q.linear ≠ 0 ∧ roots.length = 1
  quadratic : q.square ≠ 0 →
    0 ≤ discrim q.square q.linear q.constant ∧ roots.length = 2

theorem areZeros_of_zeros {q : Quadratic ℝ} {roots : List ℝ}
    (found : (zeros q : Traced (Event ℝ) _).value = some roots) : AreZeros q roots := by
  rw [zeros_value] at found
  split_ifs at found with flat level hidden
  · obtain rfl : [-q.constant / q.linear] = roots := Option.some.inj found
    refine ⟨fun t => ?_, List.pairwise_singleton _ _, fun _ => ⟨level, rfl⟩,
      fun curved => absurd flat curved⟩
    rw [List.mem_singleton, Quadratic.value, flat, eq_div_iff level]
    constructor <;> intro same <;> linarith
  · obtain rfl := Option.some.inj found
    rw [not_lt] at hidden
    have sorted : (zerosFrom q √(discrim q.square q.linear q.constant)).Perm _ :=
      Scalar.ascending_perm _
    refine ⟨fun t => ?_, Scalar.pairwise_ascending _, fun curved => absurd curved flat,
      fun _ => ⟨hidden, sorted.length_eq⟩⟩
    rw [sorted.mem_iff, Quadratic.value, 
      quadratic_eq_zero_iff flat (Real.mul_self_sqrt hidden).symm, or_comm]
    simp

theorem AreZeros.ne_nil {q : Quadratic ℝ} {roots : List ℝ} (zeros : AreZeros q roots) :
    roots ≠ [] := by
  rintro rfl
  by_cases flat : q.square = 0
  · cases (zeros.linear flat).2
  · cases (zeros.quadratic flat).2

/-- Nothing is found if there is no zero, or if every number is one. -/
theorem exists_zeros_iff (q : Quadratic ℝ) :
    (∃ roots, (zeros q : Traced (Event ℝ) _).value = some roots) ↔
      (¬∃ k, ∀ t, q.value t = k) ∧ ∃ t, q.value t = 0 := by
  rw [Quadratic.exists_value_eq_iff]
  constructor
  · rintro ⟨roots, found⟩
    have zeros := areZeros_of_zeros found
    obtain ⟨root, member⟩ := List.exists_mem_of_ne_nil _ zeros.ne_nil
    exact ⟨fun constant => (zeros.linear constant.1).1 constant.2, root,
      (zeros.mem_iff root).mp member⟩
  · rintro ⟨varies, t, zero⟩
    rw [zeros_value]
    split_ifs with flat level hidden
    · exact absurd ⟨flat, level⟩ varies
    · exact ⟨_, rfl⟩
    · have square := discrim_eq_sq_of_quadratic_eq_zero zero
      exact absurd hidden (by rw [square]; exact not_lt.mpr (sq_nonneg _))
    · exact ⟨_, rfl⟩

/-- Two zeros are found exactly for a quadratic with a real radical. -/
theorem exists_two_zeros_iff (q : Quadratic ℝ) :
    (∃ lower upper, (zeros q : Traced (Event ℝ) _).value = some [lower, upper]) ↔
      q.square ≠ 0 ∧ 0 ≤ discrim q.square q.linear q.constant := by
  constructor
  · rintro ⟨lower, upper, found⟩
    have zeros := areZeros_of_zeros found
    have curved : q.square ≠ 0 := by
      intro flat
      have one := (zeros.linear flat).2
      simp at one
    exact ⟨curved, (zeros.quadratic curved).1⟩
  · rintro ⟨curved, real⟩
    have found : (zeros q : Traced (Event ℝ) _).value =
        some (zerosFrom q √(discrim q.square q.linear q.constant)) := by
      rw [zeros_value, if_neg curved, if_neg (not_lt.mpr real)]
    obtain ⟨_, length⟩ := (areZeros_of_zeros found).quadratic curved
    obtain ⟨lower, upper, two⟩ := List.length_eq_two.mp length
    rw [two] at found
    exact ⟨lower, upper, found⟩

end Region
end PlaneRegion
