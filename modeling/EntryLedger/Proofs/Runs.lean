/-!
# Chains of actions

An action on a state may stop, and what it did until then stays done.  The
lemmas say where a chain of actions ends.
-/

namespace EntryLedger.Runs

universe u

variable {Failure State Result Next : Type u} {action : EStateM Failure State Result}
  {next : Result → EStateM Failure State Next} {before after : State}

/-- The state in which an action ends, however it ends. -/
def final : EStateM.Result Failure State Result → State
  | .ok _ after => after
  | .error _ after => after

@[simp]
theorem final_ok (result : Result) :
    final (.ok result after : EStateM.Result Failure State Result) = after :=
  rfl

@[simp]
theorem final_error (failure : Failure) :
    final (.error failure after : EStateM.Result Failure State Result) = after :=
  rfl

/-- A chain succeeds exactly when its first action does and the rest succeeds
on the state that it leaves. -/
theorem bind_eq_ok {result : Next} :
    (action >>= next).run before = .ok result after ↔
      ∃ found middle, action.run before = .ok found middle ∧
        (next found).run middle = .ok result after := by
  rw [EStateM.run_bind]
  cases action.run before with
  | ok found middle =>
      constructor
      · exact fun finished => ⟨found, middle, rfl, finished⟩
      · rintro ⟨_, _, equal, finished⟩
        cases equal
        exact finished
  | error failure middle => simp

/-- A chain stops where its first action does, or else where the rest does. -/
theorem bind_eq_error {failure : Failure} :
    (action >>= next).run before = .error failure after ↔
      action.run before = .error failure after ∨
        ∃ found middle, action.run before = .ok found middle ∧
          (next found).run middle = .error failure after := by
  rw [EStateM.run_bind]
  cases action.run before with
  | ok found middle =>
      constructor
      · exact fun stopped => .inr ⟨found, middle, rfl, stopped⟩
      · rintro (impossible | ⟨_, _, equal, stopped⟩)
        · cases impossible
        · cases equal
          exact stopped
  | error failure middle => simp

theorem bind_congr {action' : EStateM Failure State Result}
    {next' : Result → EStateM Failure State Next}
    (same : action.run before = action'.run before)
    (rest : ∀ result after, action.run before = .ok result after →
      (next result).run after = (next' result).run after) :
    (action >>= next).run before = (action' >>= next').run before := by
  rw [EStateM.run_bind, EStateM.run_bind, ← same]
  cases ran : action.run before with
  | ok found middle => exact rest found middle ran
  | error failure middle => rfl

/-- A transitive relation to the state in which an action ends extends to a chain of
actions. -/
theorem related_bind {relation : State → State → Prop}
    (trans : ∀ {first second third}, relation first second → relation second third →
      relation first third)
    (first : ∀ state, relation state (final (action.run state)))
    (rest : ∀ result state, relation state (final ((next result).run state)))
    (state : State) : relation state (final ((action >>= next).run state)) := by
  have begun := first state
  rw [EStateM.run_bind]
  cases ran : action.run state with
  | ok result middle =>
      rw [ran] at begun
      exact trans begun (rest result middle)
  | error failure middle =>
      rw [ran] at begun
      exact begun

/-- An action that respects a relation, however it ends, and fails for some reasons
only. -/
structure Behaves (relation : State → State → Prop) (reason : Failure → Prop)
    (action : EStateM Failure State Result) : Prop where
  related : ∀ state, relation state (final (action.run state))
  fails : ∀ {state failure after}, action.run state = .error failure after → reason failure

theorem Behaves.bind {relation : State → State → Prop} {reason : Failure → Prop}
    (trans : ∀ {first second third}, relation first second → relation second third →
      relation first third)
    (first : Behaves relation reason action)
    (rest : ∀ result, Behaves relation reason (next result)) :
    Behaves relation reason (action >>= next) where
  related := related_bind trans first.related fun result => (rest result).related
  fails := by
    intro state failure after failed
    rcases bind_eq_error.mp failed with early | ⟨result, middle, -, late⟩
    · exact first.fails early
    · exact (rest result).fails late

end EntryLedger.Runs
