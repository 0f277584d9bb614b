import EntryLedger.Proofs.Machine.Positional.Decoding
import EntryLedger.Proofs.Machine.Positional.Reach

/-!
# Walks that follow runs

The machine by position does what the machine does, or memory is full.  What it adds and
subtracts when it pays is gas, of which there never is more than fits a word, and what it
pushes is paid for as the machine pays.
-/

namespace EntryLedger.Positional

open Access
open Machine (itemCost)

/-- A walk ends as a run does; where the machine is crowded it may also end because
memory is full. -/
def Follows {Result : Type} (crowded : Prop)
    (walked : EStateM.Result (Exit Stop) Machine Result)
    (ended : EStateM.Result Stop Machine Result) : Prop :=
  walked = lifted ended ∨ crowded ∧ ∃ after, walked = .error .full after

/-- The gas of a machine fits a word. -/
def Counted (machine : Machine) : Prop :=
  machine.books.meter.used + machine.books.meter.remaining ≤ maxWord

section Follows

variable {Result Next : Type} {crowded other : Prop} {machine : Machine}

theorem Follows.mono {walked : EStateM.Result (Exit Stop) Machine Result}
    {ended : EStateM.Result Stop Machine Result} (follows : Follows crowded walked ended)
    (weaker : crowded → other) : Follows other walked ended :=
  follows.imp id (And.imp_left weaker)

theorem Follows.bind {walk : Walk Result} {action : Run Result} {onward : Result → Walk Next}
    {next : Result → Run Next} (first : Follows crowded (walk.run machine) (action.run machine))
    (rest : ∀ result after, action.run machine = .ok result after →
      Follows crowded ((onward result).run after) ((next result).run after)) :
    Follows crowded ((walk >>= onward).run machine) ((action >>= next).run machine) := by
  rw [EStateM.run_bind, EStateM.run_bind]
  rcases first with same | ⟨crowds, after, full⟩
  · rw [same]
    cases ran : action.run machine with
    | ok result after => exact rest result after ran
    | error stop after => exact .inl rfl
  · rw [full]
    exact .inr ⟨crowds, after, rfl⟩

theorem follows_lift (action : Run Result) :
    Follows crowded ((lift action).run machine) (action.run machine) :=
  .inl rfl

theorem follows_attempt (result : Except Fault Result) :
    Follows crowded ((reach (Access.attempt refuse result)).run machine)
      ((Machine.attempt result).run machine) := by
  cases result with
  | error cause => exact .inl rfl
  | ok value => exact .inl rfl

/-- Gas only moves, so that it goes on to fit its word. -/
theorem Counted.after {later : Machine} (counted : Counted machine)
    (precedes : machine.Precedes later) : Counted later := by
  unfold Counted
  rw [precedes.books.total]
  exact counted

theorem Counted.of_run {action : Run Result} {result : Result} {after : Machine}
    (counted : Counted machine) (advances : Machine.Advances action)
    (ran : action.run machine = .ok result after) : Counted after := by
  have precedes := advances machine
  rw [ran] at precedes
  exact counted.after precedes

end Follows

/-! ### Gas and effects -/

section Actions

variable {crowded : Prop} {machine : Machine}

/-- What is taken from the meter and from the allowance is there, and what is used fits a
word together with what remains. -/
theorem follows_charge (counted : Counted machine) (amount : Nat) :
    Follows crowded ((charge amount).run machine) ((Machine.charge amount).run machine) := by
  refine .inl ?_
  unfold Counted at counted
  rw [Machine.run_charge, charge, EStateM.run_bind, EStateM.run_get]
  simp only
  by_cases capped : machine.allowance.any (· < amount) = true
  · simp only [if_pos capped]
    rfl
  · simp only [if_neg capped, Machine.chargeBooks]
    by_cases poor : machine.books.meter.remaining < amount
    · simp only [if_pos poor]
      rfl
    · have enough : amount ≤ machine.books.meter.remaining := Nat.le_of_not_lt poor
      have word : machine.books.meter.used + amount ≤ maxWord := by omega
      simp only [if_neg poor, difference_eq_ok enough, sum_eq_ok word, reach, pure_bind]
      rw [EStateM.run_bind, EStateM.run_set]
      simp only
      by_cases overdue : Machine.late machine.books.meter
      · simp only [if_pos overdue]
        rfl
      · simp only [if_neg overdue]
        obtain ⟨tape, version, position, stack, alt, depth, allowance, books⟩ := machine
        cases allowance with
        | none => rfl
        | some own =>
            have granted : amount ≤ own := by simpa using capped
            simp only [difference_eq_ok granted]
            rfl

theorem follows_push (counted : Counted machine) {item : Bytes}
    (short : item.length ≤ maxSize) :
    Follows crowded ((push item).run machine) ((Machine.push item).run machine) := by
  have word : itemCost + maxSize ≤ maxWord := by decide
  rw [push, checkedSum, if_pos (by omega)]
  exact (follows_charge counted _).bind fun _ _ _ => .inl rfl

theorem follows_pushAll (counted : Counted machine) {items : List Bytes}
    (short : ∀ item ∈ items, item.length ≤ maxSize) :
    Follows crowded ((pushAll items).run machine) ((Machine.pushAll items).run machine) := by
  induction items generalizing machine with
  | nil => exact .inl rfl
  | cons item items ih =>
      refine (follows_push counted (short item List.mem_cons_self)).bind fun _ after pushed => ?_
      refine ih (counted.of_run (Machine.moving_push item).advances pushed) ?_
      exact fun other member => short other (List.mem_cons_of_mem item member)

theorem follows_settle (counted : Counted machine) {effect : StackEffect}
    (fitting : effect.Fitting) :
    Follows crowded ((settle effect).run machine) ((Machine.settle effect).run machine) := by
  have toll : Follows crowded ((payToll effect.toll).run machine)
      ((Machine.payToll effect.toll).run machine) := by
    cases effect.toll with
    | none => exact .inl rfl
    | some toll => exact follows_charge counted toll
  have paying : Machine.Advances (Machine.payToll effect.toll) := by
    cases effect.toll with
    | none => exact Machine.advances_pure ()
    | some toll => exact Machine.advances_charge toll
  have noting : Machine.Advances (Machine.noteQuery effect.query) := by
    cases effect.query with
    | none => exact Machine.advances_pure ()
    | some query => exact Machine.advances_note _
  have setting : Machine.Advances (Machine.setStack effect.stack) :=
    (Machine.moving_setStack effect.stack).advances
  rw [Machine.settle_eq]
  refine toll.bind fun _ after paid => (follows_lift _).bind fun _ stacked set => ?_
  refine (follows_lift _).bind fun _ noted note => ?_
  have counted := ((counted.of_run paying paid).of_run setting set).of_run noting note
  cases delivered : effect.outcome with
  | ok items => exact follows_pushAll counted (fitting items delivered)
  | error stop => exact .inl rfl

/-- Where the items on the stack are too much for memory an operation may join some of
them in vain. -/
theorem follows_affect (counted : Counted machine)
    {byPosition : List Bytes → Access StackEffect StackEffect}
    {effect : List Bytes → StackEffect} (heavy : maxSize < held machine.stack → crowded)
    (finds : Finds machine.stack (byPosition machine.stack.reverse) (effect machine.stack)) :
    Follows crowded ((affect byPosition).run machine) ((Machine.affect effect).run machine) := by
  rw [affect, Machine.affect, EStateM.run_bind, EStateM.run_bind, EStateM.run_get]
  simp only
  cases finds with
  | found same fitting =>
      rw [same]
      exact (follows_settle counted fitting).bind fun _ _ _ => .inl rfl
  | full reached weighs =>
      rw [reached]
      exact .inr ⟨heavy weighs, machine, rfl⟩

end Actions

end EntryLedger.Positional
