import PlaneRegion.Proofs.Equation.Outcome
import PlaneRegion.Proofs.Scalar.Partial

/-!
# Linear equations

An equation is linear when all of its terms are powers of degree zero or one. It may have any number
of them: its values are those of one linear function, whose level and slope are the sums of the
coefficients of each degree.
-/

namespace PlaneRegion

namespace Equation

variable {α : Type} [Scalar α]

/-- All terms are powers of degree zero or one. -/
def IsLinear (equation : Equation α) : Prop :=
  ∀ term ∈ equation, ∃ degree, term.degree? = some degree ∧ degree.val ≤ 1

theorem IsLinear.degree?_eq {equation : Equation α} (linear : equation.IsLinear) :
    ∀ term ∈ equation, term.degree? = some 0 ∨ term.degree? = some 1 := by
  intro term member
  obtain ⟨degree, found, atMostOne⟩ := linear term member
  obtain rfl | rfl : degree = 0 ∨ degree = 1 := by omega
  · exact Or.inl found
  · exact Or.inr found

/-- The sum of the coefficients of all powers of one degree. -/
def coefficientSum (degree : Fin 3) (equation : Equation α) : α :=
  Scalar.sum ((equation.filter fun term => term.degree? = some degree).map Term.coefficient)

end Equation

namespace Term

variable {term : Term PartialReal}

@[simp]
theorem degree?_constant (coefficient : PartialReal) : (constant coefficient).degree? = some 0 := by
  simp [degree?, constant, power]

@[simp]
theorem degree?_linear (coefficient : PartialReal) : (linear coefficient).degree? = some 1 := by
  simp [degree?, linear, power]

/-- A term has a degree only if it is a power with this exponent. -/
theorem exponent_of_degree? {degree : Fin 3} (found : term.degree? = some degree) :
    term.operation = .power ∧ term.exponent = some (some (degree.val : ℝ)) := by
  have exponent_eq {n : PartialReal} {k : ℕ}
      (same : Scalar.equal n (Scalar.ofNat k) = true) : n = some (k : ℝ) := by
    cases n with
    | none => cases same
    | some x => simpa using same
  unfold degree? at found
  split at found
  · rename_i n power exponent
    refine ⟨power, exponent.trans (congrArg some ?_)⟩
    split_ifs at found with zero one two
    · obtain rfl := Option.some.inj found
      exact exponent_eq zero
    · obtain rfl := Option.some.inj found
      exact exponent_eq one
    · obtain rfl := Option.some.inj found
      exact exponent_eq two
  · cases found

/-- The value of a term of degree zero or one. -/
theorem evaluate_of_degree? {c : ℝ} {degree : Fin 3} (plain : term.scale = some 1)
    (coefficient : term.coefficient = some c) (found : term.degree? = some degree)
    (linear : degree = 0 ∨ degree = 1) (t : ℝ) :
    term.evaluate (some t) = some (c * t ^ degree.val) := by
  obtain ⟨power, exponent⟩ := exponent_of_degree? found
  rcases linear with rfl | rfl
  · simp [evaluate, power, exponent, coefficient]
  · -- The first power is defined for every base, a negative one included.
    have defined : PartialReal.HasPower t 1 := by
      rcases lt_trichotomy t 0 with negative | rfl | positive
      · exact Or.inr (Or.inr ⟨negative, 1, by simp⟩)
      · exact Or.inr (Or.inl ⟨rfl, zero_le_one⟩)
      · exact Or.inl positive
    have first : Scalar.power (some t : PartialReal) (some 1) = some t :=
      PartialReal.power_eq_some_iff.mpr ⟨t, 1, rfl, rfl, defined, Real.rpow_one t⟩
    simp [evaluate, power, exponent, coefficient, plain, first]

end Term

namespace Equation

private theorem sum_of_isLinear (coefficient : Term PartialReal → ℝ)
    {equation : Equation PartialReal} (linear : equation.IsLinear) (t : ℝ) :
    (equation.map fun term => if term.degree? = some 0 then coefficient term
        else coefficient term * t).sum =
      ((equation.filter fun term => term.degree? = some 0).map coefficient).sum +
        ((equation.filter fun term => term.degree? = some 1).map coefficient).sum * t := by
  induction equation with
  | nil => simp
  | cons term rest induction =>
      have later := induction (List.forall_mem_cons.mp linear).2
      rcases linear.degree?_eq term List.mem_cons_self with degree | degree
      · have others : (some 0 : Option (Fin 3)) ≠ some 1 := by decide
        simp only [List.map_cons, List.sum_cons, List.filter_cons, later, degree, others,
          decide_true, decide_false, if_true, Bool.false_eq_true, if_false]
        ring
      · have others : (some 1 : Option (Fin 3)) ≠ some 0 := by decide
        simp only [List.map_cons, List.sum_cons, List.filter_cons, later, degree, others,
          decide_true, decide_false, if_true, Bool.false_eq_true, if_false]
        ring

/-- A linear equation that is read has the values of the linear function whose level is the sum of
its constants and whose slope is the sum of its linear coefficients. -/
theorem evaluate_of_isLinear {text : String} {equation : Equation PartialReal}
    (accepted : (read text : Attempt (Event PartialReal) EquationError _).outcome = .ok equation)
    (linear : equation.IsLinear) :
    ∃ level slope : ℝ, equation.coefficientSum 0 = some level ∧
      equation.coefficientSum 1 = some slope ∧
      ∀ t : ℝ, equation.evaluate (some t) = some (level + slope * t) := by
  let coefficient (term : Term PartialReal) : ℝ := term.coefficient.getD 0
  have coefficients : ∀ term ∈ equation, term.coefficient = some (coefficient term) := by
    intro term member
    obtain ⟨value, decimal⟩ := exists_coefficient_of_mem_of_outcome_read accepted member
    simp only [coefficient, decimal]
    rfl
  have sums (degree : Fin 3) : equation.coefficientSum degree =
      some ((equation.filter fun term => term.degree? = some degree).map coefficient).sum := by
    rw [coefficientSum, ← PartialReal.sum_map_some, List.map_map]
    congr 1
    exact List.map_congr_left fun term member => coefficients term (List.mem_of_mem_filter member)
  refine ⟨_, _, sums 0, sums 1, fun t => ?_⟩
  rw [evaluate, ← sum_of_isLinear coefficient linear t, ← PartialReal.sum_map_some, List.map_map]
  congr 1
  refine List.map_congr_left fun term member => ?_
  have power : term.isPower = true := by
    rcases linear.degree?_eq term member with degree | degree <;>
      simp [Term.isPower, (Term.exponent_of_degree? degree).1]
  have plain : term.scale = some 1 := by
    simpa using scale_of_mem_of_outcome_read accepted member power
  rcases linear.degree?_eq term member with degree | degree
  · rw [Term.evaluate_of_degree? plain (coefficients term member) degree (Or.inl rfl)]
    simp [degree]
  · rw [Term.evaluate_of_degree? plain (coefficients term member) degree (Or.inr rfl)]
    simp [degree]

end Equation
end PlaneRegion
