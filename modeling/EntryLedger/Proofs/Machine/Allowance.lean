import EntryLedger.Proofs.Machine.Boundary
import EntryLedger.Proofs.Machine.RunLimit

/-!
# Allowances

A machine that runs a predicate may have an allowance of its own.  As long as the
deadline has not passed, all the gas that the machine uses is taken off its
allowance, that of nested runs included: what the caller takes off after a nested run
is what the meter has recorded since, and the allowance is always enough for it.
-/

namespace EntryLedger.Machine

/-- A machine comes to another one by using some gas, which is off its allowance. -/
structure Spends (gas : Nat) (before after : Machine) : Prop where
  used : after.books.meter.used = before.books.meter.used + gas
  allowance : after.allowance = before.allowance.map (· - gas)
  enough : ∀ limit ∈ before.allowance, gas ≤ limit

namespace Spends

theorem none_of_eq {before after : Machine}
    (used : after.books.meter.used = before.books.meter.used)
    (allowance : after.allowance = before.allowance) : Spends 0 before after where
  used := used
  allowance := by
    rw [allowance]
    cases before.allowance with
    | none => rfl
    | some limit => rfl
  enough := fun limit _ => Nat.zero_le limit

theorem trans {first second third : Machine} {early late : Nat}
    (left : Spends early first second) (right : Spends late second third) :
    Spends (early + late) first third where
  used := by rw [right.used, left.used, Nat.add_assoc]
  allowance := by
    rw [right.allowance, left.allowance, Option.map_map]
    congr 1
    funext limit
    exact Nat.sub_sub limit early late
  enough := by
    intro limit granted
    have first := left.enough limit granted
    have second := right.enough (limit - early) (by
      rw [left.allowance, Option.mem_def.mp granted]
      rfl)
    omega

/-- A charge that is met is spent. -/
theorem charge {amount : Nat} {machine after : Machine}
    (charged : (charge amount).run machine = .ok () after) : Spends amount machine after where
  used := by
    obtain ⟨-, rfl⟩ := charge_eq_ok charged
    rfl
  allowance := by
    obtain ⟨-, rfl⟩ := charge_eq_ok charged
    rfl
  enough := by
    intro limit granted
    rw [run_charge, Option.mem_def.mp granted] at charged
    by_cases capped : (some limit).any (· < amount) = true
    · rw [if_pos capped] at charged
      cases charged
    · simpa using capped

/-- The allowance of a caller is enough for what a nested run has spent, as the nested
run had no greater one. -/
theorem caller {call : Call} {machine ended : Machine} {gas : Nat}
    (spends : Spends gas (call.machine machine) ended) :
    Spends gas machine (call.caller machine ended.books) where
  used := spends.used
  allowance := by
    have spent : ended.books.meter.used - machine.books.meter.used = gas := by
      have used : ended.books.meter.used = machine.books.meter.used + gas := spends.used
      omega
    simp only [Call.caller, spent]
  enough := by
    intro limit granted
    have callee : (call.machine machine).allowance = call.allowance (some limit) := by
      rw [← Option.mem_def.mp granted]
      rfl
    by_cases inherits : call.limit = 0
    · exact spends.enough limit (by rw [callee, Call.allowance, if_pos inherits]; rfl)
    · have least := spends.enough (min call.limit limit) (by
        rw [callee, Call.allowance, if_neg inherits]
        rfl)
      exact Nat.le_trans least (Nat.min_le_right _ _)

end Spends

/-- A later machine whose meter and allowance agree about what was used, unless the
deadline has passed. -/
structure Accounts (before after : Machine) : Prop where
  expired : after.books.meter.expired = before.books.meter.expired
  spends : before.books.meter.expired = false → ∃ gas, Spends gas before after

namespace Accounts

theorem of_eq {before after : Machine} (meter : after.books.meter = before.books.meter)
    (allowance : after.allowance = before.allowance) : before.Accounts after where
  expired := by rw [meter]
  spends := fun _ => ⟨0, .none_of_eq (by rw [meter]) allowance⟩

theorem refl (machine : Machine) : machine.Accounts machine :=
  .of_eq rfl rfl

theorem trans {first second third : Machine} (left : first.Accounts second)
    (right : second.Accounts third) : first.Accounts third where
  expired := right.expired.trans left.expired
  spends := by
    intro timely
    obtain ⟨early, begun⟩ := left.spends timely
    obtain ⟨late, ended⟩ := right.spends (left.expired.trans timely)
    exact ⟨early + late, begun.trans ended⟩

theorem charge (amount : Nat) (machine : Machine) :
    machine.Accounts (Runs.final ((Machine.charge amount).run machine)) := by
  cases charged : (Machine.charge amount).run machine with
  | ok result after =>
      refine ⟨?_, fun _ => ⟨amount, .charge charged⟩⟩
      obtain ⟨-, rfl⟩ := charge_eq_ok charged
      rfl
  | error stop after =>
      -- Only an expired deadline refuses a charge after the gas was taken.
      rw [run_charge] at charged
      split at charged
      · cases charged
        exact .refl machine
      · unfold chargeBooks at charged
        by_cases poor : machine.books.meter.remaining < amount
        · simp only [if_pos poor] at charged
          cases charged
          exact ⟨rfl, fun _ => ⟨0, .none_of_eq rfl rfl⟩⟩
        · by_cases overdue : late machine.books.meter
          · simp only [if_neg poor, if_pos overdue] at charged
            cases charged
            refine ⟨rfl, fun timely => ?_⟩
            rw [overdue.1] at timely
            cases timely
          · simp only [if_neg poor, if_neg overdue] at charged
            cases charged

end Accounts

/-- Every move keeps the accounts, if nested runs do. -/
theorem Moves.accounts {before after : Machine} (moves : Moves Accounts before after) :
    before.Accounts after := by
  induction moves with
  | refl machine => exact .refl machine
  | trans _ _ left right => exact left.trans right
  | arrange stack alt position machine => exact .of_eq rfl rfl
  | charge amount machine => exact .charge amount machine
  | note event _ machine => exact .of_eq rfl rfl
  | @begin cost machine charged _ charge =>
      have paid := Accounts.charge cost machine
      rw [charge] at paid
      exact paid.trans (.of_eq rfl rfl)
  | call _ _ nested =>
      refine ⟨nested.expired, fun timely => ?_⟩
      obtain ⟨gas, spends⟩ := nested.spends timely
      exact ⟨gas, spends.caller⟩

theorem accounts_run (context : Context) (machine : Machine) :
    machine.Accounts (Runs.final ((run context).run machine)) :=
  related_run (fun _ _ => Moves.accounts) context machine

theorem Reaches.accounts {context : Context} {machine later : Machine}
    (reached : Reaches context machine later) : machine.Accounts later :=
  reached.related Accounts.refl .trans (related_step (fun _ _ => Moves.accounts) context)

/-- Paying for the call is all that a caller spends before the nested run. -/
theorem Calls.spends {machine caller : Machine} {call : Call}
    (calls : Calls machine call caller) :
    Spends Operation.checkPredicate.cost machine caller := by
  obtain ⟨-, paid, -, -, -⟩ := calls
  have paying := Spends.charge paid
  exact { used := paying.used, allowance := paying.allowance, enough := paying.enough }

/-- All gas that a machine with an allowance uses is off that allowance, which is
enough for it: at every boundary and at the end of the run, however it ends.  A nested
run has the smaller one of the limit that is asked for and what is left of the
allowance of its caller, or all of that if no limit is asked for, and what it spends
is off the allowance of its caller too. -/
theorem spends_within_allowance (context : Context) (machine : Machine)
    (timely : machine.books.meter.expired = false) :
    (∀ later, Reaches context machine later →
      ∃ gas, Spends gas machine later ∧ ∀ call caller, Calls later call caller →
        Spends 256 later caller ∧
        (∃ operand below, later.stack = operand :: below ∧
          Number.read operand = some (call.limit : Int)) ∧
        (call.machine caller).allowance =
          (if call.limit = 0 then caller.allowance
          else some (caller.allowance.elim call.limit (min call.limit))) ∧
        ∃ spent, Spends spent (call.machine caller)
            (Runs.final ((run context).run (call.machine caller))) ∧
          Spends spent caller (call.caller caller
            (Runs.final ((run context).run (call.machine caller))).books)) ∧
      ∃ gas, Spends gas machine (Runs.final ((run context).run machine)) := by
  refine ⟨fun later reached => ?_, (accounts_run context machine).spends timely⟩
  obtain ⟨gas, spends⟩ := reached.accounts.spends timely
  refine ⟨gas, spends, fun call caller calls => ?_⟩
  have punctual : (call.machine caller).books.meter.expired = false := by
    have same : caller.books.meter.expired = later.books.meter.expired := by
      rw [calls.caller_eq]
      simp only [paid]
    exact same.trans (reached.accounts.expired.trans timely)
  have granted : (call.machine caller).allowance =
      if call.limit = 0 then caller.allowance
      else some (caller.allowance.elim call.limit (min call.limit)) := by
    change call.allowance caller.allowance = _
    unfold Call.allowance
    cases caller.allowance with
    | none => rfl
    | some own => rfl
  have operand : ∃ operand below, later.stack = operand :: below ∧
      Number.read operand = some (call.limit : Int) := by
    obtain ⟨-, -, -, -, read⟩ := calls
    obtain ⟨limitItem, countItem, stacked, limited⟩ := Call.ofStack_eq_ok read
    exact ⟨limitItem, _, stacked, limited⟩
  obtain ⟨spent, nested⟩ := (accounts_run context (call.machine caller)).spends punctual
  exact ⟨calls.spends, operand, granted, spent, nested, nested.caller⟩

/-- The run of the predicate that is starved, under an allowance. -/
def allowedPredicate (limit : Nat) : Machine :=
  { start starvedPredicate 1 (.ofMeter (.flat 400) false) with allowance := some limit }

/-- The run that needs 305 units of gas leaves 15 of an allowance of 320, although the
nested run is refused gas under its own limit. -/
theorem spends_within_allowance_of_allowedPredicate :
    (allowedPredicate 320).books.meter.expired = false ∧
      (Runs.final ((run bareContext).run (allowedPredicate 320))).allowance = some 15 := by
  have timely : (allowedPredicate 320).books.meter.expired = false := rfl
  have need :
      (Runs.final ((run bareContext).run (allowedPredicate 320))).books.meter.used = 305 := by
    decide +kernel
  obtain ⟨-, gas, spends⟩ := spends_within_allowance bareContext (allowedPredicate 320) timely
  refine ⟨timely, ?_⟩
  have spent : gas = 305 := by
    have used : _ = 0 + gas := spends.used
    rw [need] at used
    omega
  rw [spends.allowance, spent]
  rfl

end EntryLedger.Machine
