import PlaneRegion.Equation.Reader
import PlaneRegion.Proofs.Journal.Outcome
import PlaneRegion.Proofs.Text.Words
import PlaneRegion.Region.Basic

/-!
# Outcomes of reading

A written term is either read or refused as a whole, and an equation is refused with the leftmost of
its pieces that is not a term. Blanks around an equation have no influence.
-/

namespace PlaneRegion

variable {α : Type} [Scalar α]

namespace Term

/-- What comes of reading a written term: the term that its completed form describes. -/
theorem outcome_read (term : List Char) :
    (read term : Attempt (Event α) EquationError (Term α)).outcome =
      if term = [] ∨ term = ['-'] ∨ term = ['+'] then .error ⟨String.ofList term⟩
      else
        match (form (withCoefficient term) : TermForm α).toTerm? with
        | some result => .ok result
        | none => .error ⟨String.ofList term⟩ := by
  unfold read
  split_ifs with bare
  · rfl
  · simp only [Attempt.outcome_bind]
    cases (form (withCoefficient term) : TermForm α).toTerm? <;> rfl

/-- A refused term is named as it was written. -/
theorem eq_of_outcome_read_eq_error {term : List Char} {failure : EquationError}
    (refused : (read term : Attempt (Event α) EquationError (Term α)).outcome = .error failure) :
    failure = ⟨String.ofList term⟩ := by
  rw [outcome_read] at refused
  split_ifs at refused with bare
  · exact (Except.error.inj refused).symm
  · cases described : (form (withCoefficient term) : TermForm α).toTerm? with
    | some result =>
        rw [described] at refused
        cases refused
    | none =>
        rw [described] at refused
        exact (Except.error.inj refused).symm

/-- A power that is read is a power of the variable itself. -/
theorem scale_of_outcome_read {text : List Char} {term : Term α}
    (accepted : (read text : Attempt (Event α) EquationError (Term α)).outcome = .ok term)
    (power : term.isPower = true) : term.scale = Scalar.ofNat 1 := by
  rw [outcome_read] at accepted
  split_ifs at accepted with bare
  cases described : (form (withCoefficient text) : TermForm α) <;>
    rw [described] at accepted <;> cases accepted <;> first | rfl | cases power

private theorem coefficient_of_bodyForm {coefficient : α} {body : List Char} {term : Term α}
    (described : (bodyForm coefficient body).toTerm? = some term) :
    term.coefficient = coefficient := by
  unfold bodyForm at described
  repeat' split at described
  all_goals first | cases described; rfl | cases described

private theorem exists_decimal_of_splitNumber {text rest : List Char} {number : α}
    (cut : splitNumber text = some (number, rest)) :
    ∃ value : Decimal, number = Scalar.ofDecimal value := by
  unfold splitNumber at cut
  repeat' split at cut
  all_goals cases cut
  exact ⟨_, rfl⟩

/-- The coefficient of a term that is read is a decimal. -/
theorem exists_coefficient_of_outcome_read {text : List Char} {term : Term α}
    (accepted : (read text : Attempt (Event α) EquationError (Term α)).outcome = .ok term) :
    ∃ value : Decimal, term.coefficient = Scalar.ofDecimal value := by
  rw [outcome_read] at accepted
  split_ifs at accepted with bare
  cases described : (form (withCoefficient text) : TermForm α).toTerm? with
  | none =>
      rw [described] at accepted
      cases accepted
  | some result =>
      rw [described] at accepted
      obtain rfl := Except.ok.inj accepted
      unfold form at described
      split_ifs at described with closed
      · split at described
        · rename_i coefficient rest cut
          rw [coefficient_of_bodyForm described]
          exact exists_decimal_of_splitNumber cut
        · cases described
      · cases described

end Term

namespace Equation

/-- The powers in an equation that is read are powers of the variable itself. -/
theorem scale_of_mem_of_outcome_read {text : String} {equation : Equation α} {term : Term α}
    (accepted : (read text : Attempt (Event α) EquationError (Equation α)).outcome = .ok equation)
    (member : term ∈ equation) (power : term.isPower = true) : term.scale = Scalar.ofNat 1 := by
  obtain ⟨_, _, read⟩ := Attempt.exists_of_mem_of_outcome_mapM accepted member
  exact Term.scale_of_outcome_read read power

/-- The coefficients in an equation that is read are decimals. -/
theorem exists_coefficient_of_mem_of_outcome_read {text : String} {equation : Equation α}
    {term : Term α}
    (accepted : (read text : Attempt (Event α) EquationError (Equation α)).outcome = .ok equation)
    (member : term ∈ equation) : ∃ value : Decimal, term.coefficient = Scalar.ofDecimal value := by
  obtain ⟨_, _, read⟩ := Attempt.exists_of_mem_of_outcome_mapM accepted member
  exact Term.exists_coefficient_of_outcome_read read

/-- The leftmost piece of an equation that is not a term. -/
def FirstInvalid (α : Type) [Scalar α] (text : String) (piece : List Char) : Prop :=
  ∃ before later, separate text.toList = before ++ piece :: later ∧
    (∀ earlier ∈ before, ∃ term : Term α, (Term.read earlier).outcome = .ok term) ∧
    ∀ term : Term α, (Term.read piece).outcome ≠ .ok term

/-- An equation is refused exactly with its leftmost piece that is not a term. -/
theorem outcome_read_eq_error_iff (text : String) (failure : EquationError) :
    (read text : Attempt (Event α) EquationError (Equation α)).outcome = .error failure ↔
      ∃ piece, FirstInvalid α text piece ∧ failure = ⟨String.ofList piece⟩ := by
  rw [read, Attempt.outcome_mapM_eq_error_iff]
  constructor
  · rintro ⟨before, piece, later, split, sound, refused⟩
    refine ⟨piece, ⟨before, later, split, sound, ?_⟩, Term.eq_of_outcome_read_eq_error refused⟩
    intro term accepted
    rw [refused] at accepted
    cases accepted
  · rintro ⟨piece, ⟨before, later, split, sound, invalid⟩, rfl⟩
    refine ⟨before, piece, later, split, sound, ?_⟩
    cases outcome : (Term.read piece : Attempt (Event α) EquationError (Term α)).outcome with
    | ok term => exact absurd outcome (invalid term)
    | error failure => rw [Term.eq_of_outcome_read_eq_error outcome]

end Equation

/-- The equation of a row reads the same with and without the blanks around it. -/
theorem Row.read_body (row : Row) :
    (Equation.read row.body : Attempt (Event α) EquationError (Equation α)) =
      Equation.read row.equation := by
  simp only [Equation.read, Equation.separate, Row.body, Text.trimmed, String.toList_ofList,
    Text.compact_trim]

/-- The equation that a row is read as. -/
abbrev Row.ReadsAs (row : Row) (equation : Equation α) : Prop :=
  (Equation.read row.equation : Attempt (Event α) EquationError (Equation α)).outcome =
    .ok equation

theorem Row.ReadsAs.body {row : Row} {equation : Equation α} (reads : row.ReadsAs equation) :
    (Equation.read row.body : Attempt (Event α) EquationError (Equation α)).outcome =
      .ok equation := by
  rw [Row.read_body]
  exact reads

end PlaneRegion
