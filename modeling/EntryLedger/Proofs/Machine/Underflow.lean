import EntryLedger.Proofs.Machine.Allowance
import EntryLedger.Proofs.Machine.Faults

/-!
# Underflows change nothing

An instruction that needs more items than there are fails before it has taken any of
them.  This holds also where the number of items is itself an operand, and where a nested
run underflows, as that is no failure of its caller.  After the failure a machine differs
from what it was before the instruction by the gas that it has paid.
-/

namespace EntryLedger

/-- Whether a fault tells that a stack holds too few items. -/
def Fault.isUnderflow : Fault → Bool
  | .dataStackUnderflow | .altStackUnderflow => true
  | _ => false

theorem Fault.not_isUnderflow_of_isComplaint {fault : Fault}
    (complains : fault.isComplaint = true) : fault.isUnderflow = false := by
  cases fault <;> first | rfl | cases complains

/-! ### Effects -/

namespace StackEffect

/-- An effect that does nothing but fail if it fails for want of items. -/
def Whole (stack : List Bytes) (effect : StackEffect) : Prop :=
  ∀ fault, fault.isUnderflow = true → effect.outcome = .error (.fault fault) →
    effect = fail fault stack

variable {stack : List Bytes} {effect : StackEffect}

theorem whole_fail (fault : Fault) : (fail fault stack).Whole stack := by
  rintro _ - ⟨⟩
  rfl

theorem Blames.whole (blames : effect.Blames fun fault => fault.isUnderflow = false) :
    effect.Whole stack := by
  intro fault underflows failed
  cases underflows.symm.trans (blames fault failed)

theorem Complains.whole (complains : effect.Complains) : effect.Whole stack :=
  Blames.whole (complains.mono fun _ => Fault.not_isUnderflow_of_isComplaint)

end StackEffect

open StackEffect

/-- The items above the chosen one are counted before any is taken. -/
theorem Shuffle.whole_chosen {operand : Bytes} {below : List Bytes}
    {use : Nat → Bytes → StackEffect}
    (blames : ∀ index item, (use index item).Blames fun fault => fault.isUnderflow = false) :
    (chosen operand below use).Whole (operand :: below) := by
  fun_cases chosen with
  | case1 | case2 | case3 => exact whole_fail _
  | case4 => exact (blames _ _).whole

theorem Shuffle.whole_effect (shuffle : Shuffle) (stack : List Bytes) :
    (shuffle.effect stack).Whole stack := by
  unfold effect
  split
  case h_13 | h_14 => exact whole_chosen fun _ _ => by simp
  case h_7 =>
    split
    · exact (blames_push _ _).whole
    · exact (blames_leave _).whole
  all_goals exact Blames.whole (by simp)

namespace Attest

/-- Keys, message and signatures are counted before any is taken. -/
theorem whole_multisignature (verify : SignatureVerifier) (stack : List Bytes) :
    (multisignature verify stack).Whole stack := by
  unfold multisignature
  simp only
  repeat' split
  all_goals first
    | exact whole_fail _
    | exact (blames_missing _).whole
    | exact Complains.whole ((blames_after _ _).mpr (complains_judge _ _ _))

theorem whole_effect (verify : SignatureVerifier) (attest : Attest) (stack : List Bytes) :
    (attest.effect verify stack).Whole stack := by
  unfold effect
  split
  · exact Blames.whole (by simp)
  · exact Blames.whole (by simp)
  · split
    · exact whole_fail _
    · exact (complains_judge _ _ _).whole
  · exact whole_multisignature verify _
  · exact (blames_missing _).whole

end Attest

/-- A context whose output checker does not answer with an underflow. -/
def Context.AnswersPlainly (context : Context) : Prop :=
  ∀ check query fault, context.checkOutput = some check → check query = .error fault →
    fault.isUnderflow = false

theorem Observe.whole_effect {context : Context} (answers : context.AnswersPlainly)
    (observe : Observe) (stack : List Bytes) : (observe.effect context stack).Whole stack := by
  refine Blames.whole (observe.reports_effect.mono fun fault reports => ?_)
  cases reports with
  | absent => rfl
  | complaint complains => exact Fault.not_isUnderflow_of_isComplaint complains
  | answer supplied answered => exact answers _ _ _ supplied answered

namespace Machine

/-! ### Actions -/

variable {Result Next : Type} {kept : Machine → Prop} {machine : Machine} {context : Context}

/-- An ending that is no underflow, unless it leaves a machine of some kind. -/
def Spares (kept : Machine → Prop) (ended : EStateM.Result Stop Machine Result) : Prop :=
  ∀ cause after, cause.isUnderflow = true → ended = .error (.fault cause) after → kept after

namespace Spares

theorem ok (result : Result) (after : Machine) : Spares kept (.ok result after) := by
  rintro cause _ - ⟨⟩

theorem here (stop : Stop) (same : kept machine) :
    Spares kept (.error stop machine : EStateM.Result Stop Machine Result) := by
  rintro _ _ - ⟨⟩
  exact same

theorem other {stop : Stop} {after : Machine}
    (other : ∀ cause, stop = .fault cause → cause.isUnderflow = false) :
    Spares kept (.error stop after : EStateM.Result Stop Machine Result) := by
  rintro cause _ underflows ⟨⟩
  cases underflows.symm.trans (other cause rfl)

theorem bind {action : Run Result} {next : Result → Run Next}
    (first : Spares kept (action.run machine))
    (rest : ∀ result after, action.run machine = .ok result after →
      Spares kept ((next result).run after)) :
    Spares kept ((action >>= next).run machine) := by
  intro cause after underflows failed
  rcases Runs.bind_eq_error.mp failed with early | ⟨result, middle, ran, late⟩
  · exact first cause after underflows early
  · exact rest result middle ran cause after underflows late

end Spares

theorem spares_modify (change : Machine → Machine) :
    Spares kept ((modify change : Run Unit).run machine) :=
  .ok () _

/-- A refused charge is no underflow. -/
theorem spares_charge (amount : Nat) : Spares kept ((charge amount).run machine) := by
  intro cause after underflows refused
  rcases charge_eq_error refused with ⟨late, -⟩ | ⟨poor, -⟩
  · cases late
    cases underflows
  · cases poor
    cases underflows

theorem spares_push (item : Bytes) : Spares kept ((push item).run machine) :=
  (spares_charge _).bind fun _ _ _ => .ok _ _

theorem spares_pushAll (items : List Bytes) : Spares kept ((pushAll items).run machine) := by
  induction items generalizing machine with
  | nil => exact .ok _ _
  | cons item items ih => exact (spares_push item).bind fun _ _ _ => ih

/-- What is popped from an empty stack is a breach of the library, as operands are counted
before an operation starts. -/
theorem spares_pop : Spares kept (pop.run machine) := by
  rw [pop, EStateM.run_bind, EStateM.run_get]
  simp only
  split
  · exact .ok _ _
  · exact .other fun _ breached => by cases breached

/-- What a nested run has done may stop its caller, but never as an underflow. -/
theorem verdictOf_ne_underflow {exhausted : Bool} {outcome : Except Stop Halt} {cause : Fault}
    (stopped : verdictOf exhausted outcome = .error (.fault cause)) :
    cause.isUnderflow = false := by
  revert stopped
  fun_cases verdictOf
  all_goals
    rintro ⟨⟩
    try rfl

section Kept

variable (same : kept machine)
include same

theorem spares_attempt (result : Except Fault Result) :
    Spares kept ((attempt result).run machine) := by
  cases result with
  | ok value => exact .ok _ _
  | error cause => exact .here _ same

/-- An effect that underflows has paid nothing and leaves the stack that it found. -/
theorem spares_settle {effect : StackEffect} (whole : effect.Whole machine.stack) :
    Spares kept ((settle effect).run machine) := by
  by_cases fails : ∃ cause, cause.isUnderflow = true ∧ effect.outcome = .error (.fault cause)
  · obtain ⟨cause, underflows, failed⟩ := fails
    rw [whole cause underflows failed]
    exact .here _ same
  · have toll (machine : Machine) : Spares kept ((payToll effect.toll).run machine) := by
      cases effect.toll with
      | none => exact .ok _ _
      | some toll => exact spares_charge toll
    have query (machine : Machine) : Spares kept ((noteQuery effect.query).run machine) := by
      cases effect.query with
      | none => exact .ok _ _
      | some query => exact .ok _ _
    have delivery (machine : Machine) : Spares kept ((deliver effect.outcome).run machine) := by
      cases delivered : effect.outcome with
      | ok items => exact spares_pushAll items
      | error stop =>
          refine .other fun cause faulty => ?_
          cases faulty
          exact Bool.eq_false_iff.mpr fun underflows => fails ⟨cause, underflows, delivered⟩
    rw [settle_eq]
    exact (toll machine).bind fun _ _ _ => (spares_modify _).bind fun _ after _ =>
      (query after).bind fun _ after _ => delivery after

theorem spares_affect {effect : List Bytes → StackEffect}
    (whole : (effect machine.stack).Whole machine.stack) :
    Spares kept ((affect effect).run machine) := by
  have unfolded : (affect effect).run machine =
      (settle (effect machine.stack) >>= fun _ => pure Machine.Next.following).run machine :=
    rfl
  rw [unfolded]
  exact (spares_settle same whole).bind fun _ _ _ => .ok _ _

theorem spares_checkPredicate (nested : Run Halt) :
    Spares kept ((checkPredicate nested).run machine) := by
  rw [run_checkPredicate]
  split
  · exact .here _ same
  · split
    · exact .here _ same
    · rename_i call read
      simp only
      generalize verdict : verdictOf _ _ = result
      cases result with
      | ok succeeded => exact spares_push _
      | error stop =>
          refine .other fun cause faulty => ?_
          cases faulty
          exact verdictOf_ne_underflow verdict

/-! ### Steps -/

theorem spares_execute (answers : context.AnswersPlainly) (nested : Run Halt) (data : Bytes)
    (operation : Operation) :
    Spares kept ((execute nested context data operation).run machine) := by
  cases operation with
  | nop | fail => exact .ok _ _
  | jump => exact (spares_attempt same _).bind fun _ _ _ => .ok _ _
  | jumpIf =>
      refine (spares_attempt same _).bind fun target _ _ => spares_pop.bind fun item _ _ => ?_
      split
      · exact .ok _ _
      · exact .ok _ _
  | verify =>
      refine spares_pop.bind fun item _ _ => ?_
      split
      · exact .ok _ _
      · exact .other fun _ faulty => by cases faulty; rfl
  | toAlt => exact spares_pop.bind fun _ _ _ => .ok _ _
  | fromAlt =>
      simp only [execute, EStateM.run_bind, EStateM.run_get]
      split
      · exact .ok _ _
      · exact .here _ same
  | checkPredicate => exact (spares_checkPredicate same nested).bind fun _ _ _ => .ok _ _
  | push => exact (spares_push data).bind fun _ _ _ => .ok _ _
  | shuffle shuffle => exact spares_affect same (shuffle.whole_effect _)
  | splice splice => exact spares_affect same (splice.complains_effect _).whole
  | bitwise bitwise => exact spares_affect same (bitwise.complains_effect _).whole
  | numeric numeric => exact spares_affect same numeric.complains_effect.whole
  | attest attest => exact spares_affect same (attest.whole_effect _ _)
  | observe observe => exact spares_affect same (observe.whole_effect answers _)

end Kept

theorem spares_conclude (before : Machine) (performed : Instruction × Machine.Next) :
    Spares kept ((conclude before performed).run machine) := by
  obtain ⟨instruction, next⟩ := performed
  refine Spares.bind ?_ fun _ _ _ => ?_
  · simp only [record, EStateM.run_bind, EStateM.run_get]
    split
    · exact .ok _ _
    · exact .ok _ _
  · cases next with
    | halt => exact .ok _ _
    | target position => exact .ok _ _
    | following => exact .ok _ _

/-- A step underflows, if it does, when its instruction has at most been paid for and
counted. -/
theorem spares_stepWith (answers : context.AnswersPlainly) (nested : Run Halt)
    (same : kept machine)
    (begun : ∀ cost charged, (charge cost).run machine = .ok () charged →
      kept charged ∧ kept { charged with books.started := charged.books.started + 1 }) :
    Spares kept ((stepWith nested context).run machine) := by
  have unfolded : (stepWith nested context).run machine =
      (perform nested context machine >>= conclude machine).run machine := by
    rw [stepWith_eq]
    rfl
  rw [unfolded]
  refine Spares.bind ?_ fun performed _ _ => spares_conclude machine performed
  refine (spares_attempt same _).bind fun fetched _ attempted => ?_
  obtain ⟨-, rfl⟩ := attempt_eq_ok.mp attempted
  refine (spares_charge _).bind fun _ charged charge => ?_
  obtain ⟨paid, counted⟩ := begun _ charged charge
  refine (spares_attempt paid _).bind fun _ _ tested => ?_
  obtain ⟨-, rfl⟩ := attempt_eq_ok.mp tested
  refine (spares_modify _).bind fun _ after count => ?_
  cases count
  exact (spares_execute counted answers nested _ _).bind fun _ _ _ => .ok _ _

/-- A step that fails for want of items on the data stack or of items put aside leaves both
stacks and the position as they were.  Some gas may have been spent, and nothing else of the
machine has changed. -/
theorem underflow_changes_nothing {context : Context} (answers : context.AnswersPlainly)
    {machine after : Machine} {cause : Fault}
    (underflows : cause = .dataStackUnderflow ∨ cause = .altStackUnderflow)
    (stepped : (step context).run machine = .error (.fault cause) after) :
    after.stack = machine.stack ∧ after.alt = machine.alt ∧
      after.position = machine.position ∧ (∃ gas, Spends gas machine after) ∧
      after = { machine with
        books.meter := after.books.meter
        books.started := after.books.started
        allowance := after.allowance } := by
  let Kept (after : Machine) : Prop :=
    after.stack = machine.stack ∧ after.alt = machine.alt ∧
      after.position = machine.position ∧ (∃ gas, Spends gas machine after) ∧
      after = { machine with
        books.meter := after.books.meter
        books.started := after.books.started
        allowance := after.allowance }
  have same : Kept machine := ⟨rfl, rfl, rfl, ⟨0, .none_of_eq rfl rfl⟩, rfl⟩
  have begun : ∀ cost charged, (charge cost).run machine = .ok () charged →
      Kept charged ∧ Kept { charged with books.started := charged.books.started + 1 } := by
    intro cost charged charge
    have spends := Spends.charge charge
    obtain ⟨-, rfl⟩ := charge_eq_ok charge
    exact ⟨⟨rfl, rfl, rfl, ⟨cost, spends⟩, rfl⟩, rfl, rfl, rfl, ⟨cost,
      { used := spends.used, allowance := spends.allowance, enough := spends.enough }⟩, rfl⟩
  have spares := spares_stepWith answers (run context) same begun
  rw [← run_step] at spares
  refine spares cause after ?_ stepped
  rcases underflows with rfl | rfl
  · rfl
  · rfl

/-- Two keys and one signature are asked for where there is a single item. -/
def lackingMachine : Machine :=
  { start [0xad] 1 (.ofMeter (.flat 100) false) with stack := [[2], [1], [7]] }

/-- The number of missing items is told by operands, which stay on the stack. -/
theorem underflow_changes_nothing_of_lackingMachine :
    outcomeOf ((step bareContext).run lackingMachine) =
        .error (.fault .dataStackUnderflow) ∧
      (Runs.final ((step bareContext).run lackingMachine)).stack = [[2], [1], [7]] := by
  have fails : (outcomeOf ((step bareContext).run lackingMachine)) =
      .error (.fault .dataStackUnderflow) := by
    decide +kernel
  have answers : bareContext.AnswersPlainly := by
    rintro check query cause ⟨⟩
  refine ⟨fails, ?_⟩
  cases ran : (step bareContext).run lackingMachine with
  | ok halted after =>
      rw [ran] at fails
      cases fails
  | error stop after =>
      rw [ran] at fails
      cases fails
      exact (underflow_changes_nothing answers (.inl rfl) ran).1

end Machine

end EntryLedger
