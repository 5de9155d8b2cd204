import PlaneRegion.Host.Basic

/-!
# How actions on a machine end

A machine is given by states of any kind and by what each operation of a host does to them; so a
file may fail to be written in whatever way. An action that may fail ends in a state, with a result
or with an error. An error of actions done one after the other is the error of one of them.
-/

namespace PlaneRegion
namespace Host

variable {σ ε α β : Type}

/-- The action, begun in the first state, ends with the outcome in the second. -/
def Ends (action : ExceptT ε (StateM σ) α) (before : σ) (outcome : Except ε α) (after : σ) : Prop :=
  action.run.run before = (outcome, after)

/-- Two actions in a row end with the error of the first, or else with that of the second. -/
theorem Ends.of_bind_error {first : ExceptT ε (StateM σ) α} {next : α → ExceptT ε (StateM σ) β}
    {before after : σ} {error : ε} (failed : Ends (first >>= next) before (.error error) after) :
    Ends first before (.error error) after ∨
      ∃ value middle, Ends first before (.ok value) middle ∧
        Ends (next value) middle (.error error) after := by
  unfold Ends at failed ⊢
  rw [ExceptT.run_bind, StateT.run_bind] at failed
  obtain ⟨⟨outcome, middle⟩, ended⟩ : ∃ ending, first.run.run before = ending := ⟨_, rfl⟩
  rw [ended] at failed ⊢
  cases outcome with
  | error found =>
      left
      cases failed
      rfl
  | ok value =>
      right
      exact ⟨value, middle, rfl, failed⟩

/-- Two actions in a row end with the result of the second after a result of the first. -/
theorem Ends.of_bind_ok {first : ExceptT ε (StateM σ) α} {next : α → ExceptT ε (StateM σ) β}
    {before after : σ} {result : β} (ended : Ends (first >>= next) before (.ok result) after) :
    ∃ value middle, Ends first before (.ok value) middle ∧
      Ends (next value) middle (.ok result) after := by
  unfold Ends at ended ⊢
  rw [ExceptT.run_bind, StateT.run_bind] at ended
  obtain ⟨⟨outcome, middle⟩, begun⟩ : ∃ ending, first.run.run before = ending := ⟨_, rfl⟩
  rw [begun] at ended ⊢
  cases outcome with
  | error found => cases ended
  | ok value => exact ⟨value, middle, rfl, ended⟩

theorem Ends.of_pure {value result : α} {before after : σ}
    (ended : Ends (pure value : ExceptT ε (StateM σ) α) before (.ok result) after) :
    result = value := by
  cases ended
  rfl

theorem not_ends_pure_error {value : α} {before after : σ} {error : ε} :
    ¬ Ends (pure value) before (.error error) after := by
  intro failed
  cases failed

/-- An outcome that needs no machine leaves the state as it is. -/
theorem Ends.of_mk_pure {given outcome : Except ε α} {before after : σ}
    (ended : Ends (ExceptT.mk (pure given)) before outcome after) : outcome = given := by
  cases ended
  rfl

/-- An action without failures does not fail. -/
theorem not_ends_lift_error {action : StateM σ α} {before after : σ} {error : ε} :
    ¬ Ends (ExceptT.lift action) before (.error error) after := by
  intro failed
  cases failed

/-- An error that has been renamed comes from an error of the action. -/
theorem Ends.of_mapError {δ : Type} {action : ExceptT δ (StateM σ) α} {name : δ → ε}
    {before after : σ} {outcome : Except ε α}
    (ended : Ends (ExceptT.mk ((·.mapError name) <$> action.run)) before outcome after) :
    ∃ original, Ends action before original after ∧ outcome = original.mapError name := by
  unfold Ends at ended ⊢
  cases ended
  exact ⟨_, rfl, rfl⟩

/-- Logging the events of a computation gives its value. -/
theorem Ends.of_play [Host (StateM σ)] {computation : Traced (Event Float) α} {before after : σ}
    {value : α}
    (ended : Ends (ExceptT.lift (play computation) : ExceptT ε (StateM σ) α) before (.ok value)
      after) : value = computation.value := by
  cases ended
  rfl

end Host
end PlaneRegion
