import Mathlib.Data.List.Forall2
import PlaneRegion.Journal.Traced

/-!
# Outcomes of attempts

The outcome of an attempt forgets its journal. Attempts made one after the other over a list
succeed together exactly when each succeeds alone, and otherwise fail with the first failure.
-/

namespace PlaneRegion

/-- A relation that holds of every item with some result holds along some list of results. -/
theorem exists_forall₂ {α β : Type} {relation : α → β → Prop} {items : List α}
    (each : ∀ item ∈ items, ∃ result, relation item result) :
    ∃ results, List.Forall₂ relation items results := by
  induction items with
  | nil => exact ⟨[], .nil⟩
  | cons item items induction =>
      obtain ⟨result, head⟩ := each item List.mem_cons_self
      obtain ⟨results, tail⟩ := induction fun other member => each other (.tail item member)
      exact ⟨result :: results, .cons head tail⟩

namespace Attempt

variable {ω ε α β : Type}

/-- After a success the second attempt decides the outcome. -/
theorem outcome_bind_of_ok {first : Attempt ω ε α} {value : α}
    (succeeded : outcome first = .ok value) (next : α → Attempt ω ε β) :
    outcome (first >>= next) = outcome (next value) := by
  rw [outcome_bind, succeeded]
  rfl

/-- Two attempts in a row succeed when both do. -/
theorem outcome_bind_eq_ok_iff {first : Attempt ω ε α} {next : α → Attempt ω ε β} {result : β} :
    outcome (first >>= next) = .ok result ↔
      ∃ value, outcome first = .ok value ∧ outcome (next value) = .ok result := by
  rw [outcome_bind]
  cases outcome first <;> simp [bind, Except.bind]

/-- Two attempts in a row fail with the failure of the first, or else with that of the second. -/
theorem outcome_bind_eq_error_iff {first : Attempt ω ε α} {next : α → Attempt ω ε β}
    {failure : ε} :
    outcome (first >>= next) = .error failure ↔
      outcome first = .error failure ∨
        ∃ value, outcome first = .ok value ∧ outcome (next value) = .error failure := by
  rw [outcome_bind]
  cases outcome first <;> simp [bind, Except.bind]

/-- Attempts over a list succeed exactly when each of them does. -/
theorem outcome_mapM_eq_ok_iff (attempt : α → Attempt ω ε β) (items : List α)
    (results : List β) :
    outcome (items.mapM attempt) = .ok results ↔
      List.Forall₂ (fun item result => outcome (attempt item) = .ok result) items results := by
  induction items generalizing results with
  | nil =>
      rw [List.mapM_nil, outcome_pure, Except.ok.injEq, List.forall₂_nil_left_iff, eq_comm]
  | cons item items induction =>
      rw [List.mapM_cons, outcome_bind_eq_ok_iff, List.forall₂_cons_left_iff]
      constructor
      · rintro ⟨result, head, read⟩
        obtain ⟨later, tail, same⟩ := outcome_bind_eq_ok_iff.mp read
        cases same
        exact ⟨result, later, head, (induction later).mp tail, rfl⟩
      · rintro ⟨result, later, head, tail, rfl⟩
        exact ⟨result, head, outcome_bind_eq_ok_iff.mpr ⟨later, (induction later).mpr tail, rfl⟩⟩

/-- Every result of attempts over a list is the result of one of them. -/
theorem exists_of_mem_of_outcome_mapM {attempt : α → Attempt ω ε β} {items : List α}
    {results : List β} {result : β} (succeeded : outcome (items.mapM attempt) = .ok results)
    (member : result ∈ results) : ∃ item ∈ items, outcome (attempt item) = .ok result := by
  have related := (outcome_mapM_eq_ok_iff _ _ _).mp succeeded
  clear succeeded
  induction related with
  | nil => cases member
  | @cons item first items results head _ induction =>
      rcases List.mem_cons.mp member with rfl | member
      · exact ⟨item, List.mem_cons_self, head⟩
      · obtain ⟨later, inside, known⟩ := induction member
        exact ⟨later, List.mem_cons_of_mem _ inside, known⟩

/-- Attempts over a list succeed together when each succeeds alone. -/
theorem exists_outcome_mapM_eq_ok_iff (attempt : α → Attempt ω ε β) (items : List α) :
    (∃ results, outcome (items.mapM attempt) = .ok results) ↔
      ∀ item ∈ items, ∃ result, outcome (attempt item) = .ok result := by
  simp only [outcome_mapM_eq_ok_iff]
  induction items with
  | nil => simp
  | cons item items induction =>
      simp only [List.forall₂_cons_left_iff, List.mem_cons, forall_eq_or_imp, ← induction]
      constructor
      · rintro ⟨_, result, later, head, tail, rfl⟩
        exact ⟨⟨result, head⟩, later, tail⟩
      · rintro ⟨⟨result, head⟩, later, tail⟩
        exact ⟨_, result, later, head, tail, rfl⟩

/-- Attempts over a list fail exactly with the first failure among them. -/
theorem outcome_mapM_eq_error_iff (attempt : α → Attempt ω ε β) (items : List α) (failure : ε) :
    outcome (items.mapM attempt) = .error failure ↔
      ∃ before item later, items = before ++ item :: later ∧
        (∀ earlier ∈ before, ∃ result, outcome (attempt earlier) = .ok result) ∧
        outcome (attempt item) = .error failure := by
  induction items with
  | nil => simp
  | cons first items induction =>
      rw [List.mapM_cons, outcome_bind_eq_error_iff]
      constructor
      · rintro (failed | ⟨result, head, failed⟩)
        · exact ⟨[], first, items, rfl, by simp, failed⟩
        · rcases outcome_bind_eq_error_iff.mp failed with failed | ⟨later, tail, failed⟩
          · obtain ⟨before, item, later, rfl, sound, failed⟩ := induction.mp failed
            refine ⟨first :: before, item, later, rfl, ?_, failed⟩
            simp only [List.mem_cons, forall_eq_or_imp]
            exact ⟨⟨result, head⟩, sound⟩
          · cases failed
      · rintro ⟨before, item, later, split, sound, failed⟩
        cases before with
        | nil =>
            obtain ⟨rfl, rfl⟩ := List.cons_eq_cons.mp split
            exact Or.inl failed
        | cons earlier before =>
            obtain ⟨rfl, rfl⟩ := List.cons_eq_cons.mp split
            simp only [List.mem_cons, forall_eq_or_imp] at sound
            obtain ⟨⟨result, head⟩, sound⟩ := sound
            refine Or.inr ⟨result, head, outcome_bind_eq_error_iff.mpr (Or.inl ?_)⟩
            exact induction.mpr ⟨before, item, later, rfl, sound, failed⟩

end Attempt
end PlaneRegion
