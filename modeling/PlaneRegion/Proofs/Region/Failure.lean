import PlaneRegion.Proofs.Equation.Outcome
import PlaneRegion.Proofs.Region.Outcome
import PlaneRegion.Region.Describe

/-!
# Failures of describing a region

Describing a region fails only with the error of an equation of one of its rows.
-/

namespace PlaneRegion

namespace Region

open Attempt

variable {α : Type} [Scalar α]

private def Refuses (α : Type) [Scalar α] (equations : List String) (failure : EquationError) :
    Prop :=
  ∃ text ∈ equations,
    (Equation.read text : Attempt (Event α) EquationError (Equation α)).outcome = .error failure

private theorem refuses_of_readAll {equations : List String} {failure : EquationError}
    (failed : (readAll equations : Attempt (Event α) EquationError _).outcome = .error failure) :
    Refuses α equations failure := by
  obtain ⟨before, text, later, rfl, _, refused⟩ := (outcome_mapM_eq_error_iff _ _ _).mp failed
  exact ⟨text, by simp, refused⟩

private theorem refuses_of_constantValues {equations : List String} {failure : EquationError}
    (failed : (constantValues equations : Attempt (Event α) EquationError _).outcome =
      .error failure) : Refuses α equations failure := by
  induction equations with
  | nil => cases failed
  | cons text rest induction =>
      rw [constantValues, outcome_bind_eq_error_iff] at failed
      rcases failed with refused | ⟨equation, _, failed⟩
      · exact ⟨text, List.mem_cons_self, refused⟩
      · split_ifs at failed
        · rcases outcome_bind_eq_error_iff.mp failed with failed | ⟨values, _, failed⟩
          · obtain ⟨later, member, refused⟩ := induction failed
            exact ⟨later, List.mem_cons_of_mem _ member, refused⟩
          · cases failed
        · cases failed

private theorem refuses_of_explicitOuterBounds {equations : List String}
    {failure : EquationError}
    (failed : (explicitOuterBounds equations : Attempt (Event α) EquationError _).outcome =
      .error failure) : Refuses α equations failure := by
  rcases outcome_bind_eq_error_iff.mp failed with failed | ⟨values, _, failed⟩
  · exact refuses_of_constantValues failed
  · cases failed

private theorem refuses_of_outerBounds {bounds : Bounds} {failure : EquationError}
    (failed : (outerBounds bounds : Attempt (Event α) EquationError _).outcome =
      .error failure) : Refuses α (bounds.inner ++ bounds.outer) failure := by
  have widen : ∀ {equations}, equations ⊆ bounds.inner ++ bounds.outer →
      Refuses α equations failure → Refuses α (bounds.inner ++ bounds.outer) failure := by
    rintro equations included ⟨text, member, refused⟩
    exact ⟨text, included member, refused⟩
  unfold outerBounds at failed
  split_ifs at failed
  · rcases outcome_bind_eq_error_iff.mp failed with failed | ⟨given, _, failed⟩
    · exact widen (by simp) (refuses_of_explicitOuterBounds failed)
    rcases outcome_bind_eq_error_iff.mp failed with failed | ⟨inner, _, failed⟩
    · exact widen (by simp) (refuses_of_readAll failed)
    · cases failed
  · exact widen (by simp) (refuses_of_explicitOuterBounds failed)
  · cases failed

private theorem refuses_of_orderInnerBounds {first second : String} {lower upper : α}
    {failure : EquationError}
    (failed : (orderInnerBounds first second lower upper).outcome = .error failure) :
    Refuses α [first, second] failure := by
  unfold orderInnerBounds at failed
  rcases outcome_bind_eq_error_iff.mp failed with failed | ⟨firstEquation, _, failed⟩
  · exact ⟨first, by simp, failed⟩
  rcases outcome_bind_eq_error_iff.mp failed with failed | ⟨secondEquation, _, failed⟩
  · exact ⟨second, by simp, failed⟩
  · cases failed

private theorem refuses_of_solve {bounds : Bounds} {order : IntegrationOrder}
    {failure : EquationError}
    (failed : (solve bounds order : Attempt (Event α) EquationError _).outcome =
      .error failure) : Refuses α (bounds.inner ++ bounds.outer) failure := by
  unfold solve at failed
  rcases outcome_bind_eq_error_iff.mp failed with failed | ⟨outer, _, failed⟩
  · exact refuses_of_outerBounds failed
  split at failed
  · rename_i outer first second later inner _
    cases pair : finitePair outer with
    | none =>
        rw [pair] at failed
        cases failed
    | some ends =>
        rw [pair] at failed
        rcases outcome_bind_eq_error_iff.mp failed with failed | ⟨ordered, _, failed⟩
        · obtain ⟨text, member, refused⟩ := refuses_of_orderInnerBounds failed
          refine ⟨text, ?_, refused⟩
          simp only [List.mem_cons, List.not_mem_nil, or_false] at member
          rcases member with rfl | rfl <;> simp [inner]
        · cases failed
  · cases failed

/-- Describing a region fails only with the error of the equation of a row that is not blank. -/
theorem exists_row_of_describe_error {rows : List Row} {failure : EquationError}
    (failed : (describe rows : Attempt (Event α) EquationError _).outcome = .error failure) :
    ∃ row ∈ rows, row.isBlank = false ∧
      (Equation.read row.equation : Attempt (Event α) EquationError (Equation α)).outcome =
        .error failure := by
  unfold describe at failed
  rcases outcome_bind_eq_error_iff.mp failed with failed | ⟨order, _, failed⟩
  · cases failed
  cases order with
  | none => cases failed
  | some order =>
      obtain ⟨text, member, refused⟩ := refuses_of_solve failed
      obtain ⟨row, present, filled, rfl⟩ : ∃ row ∈ rows, row.isBlank = false ∧ row.body = text := by
        rcases List.mem_append.mp member with inside | inside
        · exact exists_row_of_mem_equationsFor inside
        · exact exists_row_of_mem_equationsFor inside
      rw [Row.read_body] at refused
      exact ⟨row, present, filled, refused⟩

end Region
end PlaneRegion
