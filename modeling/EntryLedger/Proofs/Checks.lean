/-!
# Chains of checks

Checks that may fail are chained, and a chain succeeds exactly when each of its
links does.  The lemmas take a successful chain apart link by link.
-/

namespace EntryLedger.Checks

universe u v

variable {Failure Refused : Type u} {Result Next : Type v}

@[simp]
theorem throw_eq_error (failure : Failure) :
    (throw failure : Except Failure Result) = .error failure :=
  rfl

@[simp]
theorem pure_eq_ok (result : Result) :
    (pure result : Except Failure Result) = .ok result :=
  rfl

@[simp]
theorem error_bind (failure : Failure) (next : Result → Except Failure Next) :
    (Except.error failure >>= next) = .error failure :=
  rfl

@[simp]
theorem ok_bind (result : Result) (next : Result → Except Failure Next) :
    (Except.ok result >>= next) = next result :=
  rfl

/-- A chain succeeds exactly when its first check does and the rest succeeds
with what that check found. -/
@[simp]
theorem bind_eq_ok {check : Except Failure Result}
    {next : Result → Except Failure Next} {result : Next} :
    (check >>= next) = .ok result ↔
      ∃ found, check = .ok found ∧ next found = .ok result := by
  cases check with
  | error failure => simp
  | ok found => simp

/-- A chain fails where its first check does, or else where the rest does. -/
theorem bind_eq_error {check : Except Failure Result}
    {next : Result → Except Failure Next} {failure : Failure} :
    (check >>= next) = .error failure ↔
      check = .error failure ∨ ∃ found, check = .ok found ∧ next found = .error failure := by
  cases check with
  | error failure => simp
  | ok found => simp

@[simp]
theorem mapError_error (rename : Failure → Refused) (failure : Failure) :
    (.error failure : Except Failure Result).mapError rename = .error (rename failure) :=
  rfl

@[simp]
theorem mapError_ok (rename : Failure → Refused) (result : Result) :
    (.ok result : Except Failure Result).mapError rename = .ok result :=
  rfl

/-- Renaming failures leaves successes as they are. -/
@[simp]
theorem mapError_eq_ok {rename : Failure → Refused}
    {check : Except Failure Result} {result : Result} :
    check.mapError rename = .ok result ↔ check = .ok result := by
  cases check with
  | error failure => simp
  | ok found => simp

theorem mapError_eq_error {rename : Failure → Refused}
    {check : Except Failure Result} {refused : Refused} :
    check.mapError rename = .error refused ↔
      ∃ failure, check = .error failure ∧ rename failure = refused := by
  cases check with
  | error failure => simp
  | ok found => simp

/-- A result that was changed is the change of a result. -/
@[simp]
theorem map_eq_ok {check : Except Failure Result} {change : Result → Next} {result : Next} :
    check.map change = .ok result ↔ ∃ found, check = .ok found ∧ change found = result := by
  cases check with
  | error failure => simp [Except.map]
  | ok found => simp [Except.map]

theorem toOption_eq_some {check : Except Failure Result} {result : Result} :
    check.toOption = some result ↔ check = .ok result := by
  cases check with
  | error failure => simp [Except.toOption]
  | ok found => simp [Except.toOption]

/-- A list of checks succeeds exactly when each of them does. -/
theorem forM_eq_ok {Item : Type} {check : Item → Except Failure PUnit}
    {items : List Item} :
    List.forM items check = .ok PUnit.unit ↔ ∀ item ∈ items, check item = .ok PUnit.unit := by
  induction items with
  | nil => simp [List.forM]
  | cons item items ih =>
      have unfolded : List.forM (item :: items) check =
          (check item >>= fun _ => List.forM items check) := rfl
      rw [unfolded, bind_eq_ok, List.forall_mem_cons, ← ih]
      exact ⟨fun ⟨_, checked⟩ => checked, fun checked => ⟨PUnit.unit, checked⟩⟩

/-! ### Reasons of failures -/

/-- A check that fails, if it does, for a reason of some kind. -/
def FailsOnly (reason : Failure → Prop) (check : Except Failure Result) : Prop :=
  ∀ failure, check = .error failure → reason failure

namespace FailsOnly

variable {reason other : Failure → Prop} {check : Except Failure Result}

theorem ok (result : Result) : FailsOnly reason (.ok result : Except Failure Result) := by
  rintro failure ⟨⟩

theorem error {failure : Failure} (reasoned : reason failure) :
    FailsOnly reason (.error failure : Except Failure Result) := by
  rintro _ ⟨⟩
  exact reasoned

theorem mono (fails : FailsOnly reason check)
    (implies : ∀ failure, reason failure → other failure) : FailsOnly other check :=
  fun failure failed => implies failure (fails failure failed)

theorem bind {next : Result → Except Failure Next} (first : FailsOnly reason check)
    (rest : ∀ found, check = .ok found → FailsOnly reason (next found)) :
    FailsOnly reason (check >>= next) := by
  intro failure failed
  rcases bind_eq_error.mp failed with early | ⟨found, passed, late⟩
  · exact first failure early
  · exact rest found passed failure late

theorem map {change : Result → Next} (fails : FailsOnly reason check) :
    FailsOnly reason (check.map change) := by
  cases check with
  | error failure => exact error (fails failure rfl)
  | ok found => exact ok _

theorem mapError {rename : Failure → Refused} {reason : Refused → Prop}
    (fails : FailsOnly (fun failure => reason (rename failure)) check) :
    FailsOnly reason (check.mapError rename) := by
  intro refused failed
  obtain ⟨failure, same, rfl⟩ := mapError_eq_error.mp failed
  exact fails failure same

end FailsOnly

end EntryLedger.Checks
