/-!
# Computations with a journal

A traced computation gives a value and the list of events met on the way, in order.  The value never
depends on the journal: `value` is compatible with every way of composing computations.  An attempt
is a traced computation that may fail, and a change is an attempt that works on a state: it leaves a
state behind whether it succeeds or fails.
-/

namespace PlaneRegion

/-- A value with the events met while computing it. -/
structure Traced (ω α : Type) where
  value : α
  /-- The events in the order in which they were met. -/
  events : List ω
  deriving DecidableEq, Repr

namespace Traced

variable {ω α β : Type}

instance : Monad (Traced ω) where
  pure a := ⟨a, []⟩
  bind x f := ⟨(f x.value).value, x.events ++ (f x.value).events⟩

/-- Record one event. -/
def record (event : ω) : Traced ω Unit := ⟨(), [event]⟩

@[simp]
theorem value_pure (a : α) : (pure a : Traced ω α).value = a := rfl

@[simp]
theorem value_bind (x : Traced ω α) (f : α → Traced ω β) :
    (x >>= f).value = (f x.value).value := rfl

@[simp]
theorem events_pure (a : α) : (pure a : Traced ω α).events = [] := rfl

@[simp]
theorem events_bind (x : Traced ω α) (f : α → Traced ω β) :
    (x >>= f).events = x.events ++ (f x.value).events := rfl

theorem mk_bind (a : α) (events : List ω) (f : α → Traced ω β) :
    (⟨a, events⟩ : Traced ω α) >>= f = ⟨(f a).value, events ++ (f a).events⟩ := rfl

instance : LawfulMonad (Traced ω) := LawfulMonad.mk' (Traced ω)
  (fun x => congrArg (Traced.mk x.value) (List.append_nil x.events))
  (fun _ _ => rfl)
  (fun x f g => congrArg (Traced.mk (g (f x.value).value).value)
    (List.append_assoc x.events (f x.value).events (g (f x.value).value).events))

end Traced

/-- A traced computation that may fail; the events before a failure are kept. -/
abbrev Attempt (ω ε α : Type) := ExceptT ε (Traced ω) α

namespace Attempt

variable {ω ε α β : Type}

/-- The outcome of an attempt without its journal. -/
def outcome (x : Attempt ω ε α) : Except ε α := x.run.value

/-- A computation that meets no event. -/
def ofExcept (x : Except ε α) : Attempt ω ε α := ExceptT.mk (pure x)

/-- A computation that can not fail. -/
def ofTraced (x : Traced ω α) : Attempt ω ε α := ExceptT.lift x

/-- Continue with a failure as a value. -/
def settle (x : Attempt ω ε α) : Traced ω (Except ε α) := x.run

/-- Record one event. -/
def record (event : ω) : Attempt ω ε Unit := ofTraced (Traced.record event)

@[simp]
theorem outcome_pure (a : α) : outcome (pure a : Attempt ω ε α) = .ok a := rfl

@[simp]
theorem outcome_throw (e : ε) : outcome (throw e : Attempt ω ε α) = .error e := rfl

@[simp]
theorem outcome_bind (x : Attempt ω ε α) (f : α → Attempt ω ε β) :
    outcome (x >>= f) = outcome x >>= fun a => outcome (f a) := by
  simp only [outcome, ExceptT.run_bind, Traced.value_bind]
  cases x.run.value <;> rfl

@[simp]
theorem outcome_ofExcept (x : Except ε α) : outcome (ofExcept x : Attempt ω ε α) = x := rfl

@[simp]
theorem outcome_ofTraced (x : Traced ω α) :
    outcome (ofTraced x : Attempt ω ε α) = .ok x.value := rfl

end Attempt

/-- An attempt that works on a state; a failure takes back nothing of what was done before it. -/
abbrev Change (ω σ ε α : Type) := ExceptT ε (StateT σ (Traced ω)) α

namespace Change

variable {ω σ ε α β : Type}

/-- Begin with a state and continue with the result, a failure being a value, and with the state
that is left. -/
def settle (x : Change ω σ ε α) (s : σ) : Traced ω (Except ε α × σ) := x.run.run s

/-- The result of a change and the state that it leaves, without its journal. -/
def outcome (x : Change ω σ ε α) (s : σ) : Except ε α × σ := (x.settle s).value

/-- An attempt that has no part in the state. -/
def ofAttempt (x : Attempt ω ε α) : Change ω σ ε α := ExceptT.mk (StateT.lift x.settle)

/-- A change that can not fail. -/
def ofTraced (f : σ → Traced ω σ) : Change ω σ ε Unit :=
  ExceptT.mk fun s => do return (.ok (), ← f s)

@[simp]
theorem outcome_pure (a : α) (s : σ) : outcome (pure a : Change ω σ ε α) s = (.ok a, s) := rfl

@[simp]
theorem outcome_throw (e : ε) (s : σ) : outcome (throw e : Change ω σ ε α) s = (.error e, s) := rfl

@[simp]
theorem outcome_get (s : σ) : outcome (get : Change ω σ ε σ) s = (.ok s, s) := rfl

@[simp]
theorem outcome_modify (f : σ → σ) (s : σ) :
    outcome (modify f : Change ω σ ε PUnit) s = (.ok ⟨⟩, f s) := rfl

@[simp]
theorem outcome_ofAttempt (x : Attempt ω ε α) (s : σ) :
    outcome (ofAttempt x : Change ω σ ε α) s = (x.outcome, s) := rfl

theorem outcome_ofAttempt_of_eq {x : Attempt ω ε α} {result : Except ε α}
    (outcome_eq : x.outcome = result) (s : σ) :
    outcome (ofAttempt x : Change ω σ ε α) s = (result, s) := by
  rw [outcome_ofAttempt, outcome_eq]

@[simp]
theorem outcome_ofTraced (f : σ → Traced ω σ) (s : σ) :
    outcome (ofTraced f : Change ω σ ε Unit) s = (.ok (), (f s).value) := rfl

/-- After a success the second change begins with the state that the first one leaves. -/
theorem outcome_bind_of_ok {first : Change ω σ ε α} {s later : σ} {value : α}
    (succeeded : outcome first s = (.ok value, later)) (next : α → Change ω σ ε β) :
    outcome (first >>= next) s = outcome (next value) later := by
  have run : outcome (first >>= next) s =
      (ExceptT.bindCont next (outcome first s).1 (outcome first s).2).value := rfl
  rw [run, succeeded]
  rfl

/-- After a failure the state stays as the first change leaves it. -/
theorem outcome_bind_of_error {first : Change ω σ ε α} {s later : σ} {failure : ε}
    (failed : outcome first s = (.error failure, later)) (next : α → Change ω σ ε β) :
    outcome (first >>= next) s = (.error failure, later) := by
  have run : outcome (first >>= next) s =
      (ExceptT.bindCont next (outcome first s).1 (outcome first s).2).value := rfl
  rw [run, failed]
  rfl

end Change
end PlaneRegion
