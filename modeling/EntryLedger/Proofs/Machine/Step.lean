import EntryLedger.Machine.Machine
import EntryLedger.Proofs.Runs

/-!
# The phases of a step

A step fetches an instruction, pays for it, is allowed it, carries it out,
notes it, and moves on.  Statements about steps are proved phase by phase.
-/

namespace EntryLedger.Machine

/-- The instruction that a machine is at and its operation, or why it cannot
even be paid for. -/
def fetch (machine : Machine) : Except Fault (Instruction × Operation) :=
  match machine.tape.decode machine.position with
  | .error cause => .error cause
  | .ok instruction =>
      match instruction.opcode.operation? with
      | none => .error (.unrecognizedToken instruction.opcode)
      | some operation =>
          if machine.version < instruction.opcode.since then
            .error (.disallowedOpcode instruction.opcode)
          else .ok (instruction, operation)

/-- What is fetched stands at the position of the machine, and its version knows it. -/
theorem fetch_eq_ok {machine : Machine} {instruction : Instruction} {operation : Operation} :
    machine.fetch = .ok (instruction, operation) ↔
      Instruction.decode machine.tape.program machine.position = .ok instruction ∧
        instruction.opcode.operation? = some operation ∧
        instruction.opcode.since ≤ machine.version := by
  rw [fetch, Tape.decode_eq]
  constructor
  · intro fetched
    cases decoded : Instruction.decode machine.tape.program machine.position with
    | error cause => simp [decoded] at fetched
    | ok found =>
        cases selected : found.opcode.operation? with
        | none => simp [decoded, selected] at fetched
        | some known =>
            by_cases early : machine.version < found.opcode.since
            · simp [decoded, selected, early] at fetched
            · simp only [decoded, selected, if_neg early] at fetched
              cases fetched
              exact ⟨rfl, selected, UInt64.not_lt.mp early⟩
  · rintro ⟨decoded, selected, known⟩
    simp only [decoded, selected]
    exact if_neg (UInt64.not_lt.mpr known)

/-- Why an operation cannot be started although it is paid for. -/
def allow (machine : Machine) (instruction : Instruction) (operation : Operation) :
    Except Fault Unit :=
  if lacks machine.stack operation.operands then .error .dataStackUnderflow
  else if 0x100000000 ≤ machine.position + instruction.length then .error .longProgram
  else .ok ()

/-- Move on after an instruction. -/
def proceed (following : Nat) : Next → Run (Option Halt)
  | .halt => pure (some .returned)
  | .target position => do
      modify fun machine => { machine with position := position }
      return none
  | .following => do
      modify fun machine => { machine with position := following }
      return none

/-- Carry out an instruction that was fetched and paid for. -/
def carryOut (nested : Run Halt) (context : Context) (machine : Machine)
    (fetched : Instruction × Operation) : Run (Instruction × Next) :=
  attempt (machine.allow fetched.1 fetched.2) >>= fun _ =>
  countStart >>= fun _ =>
  execute nested context fetched.1.data fetched.2 >>= fun next =>
  pure (fetched.1, next)

/-- Do what a step does before it notes its instruction. -/
def perform (nested : Run Halt) (context : Context) (machine : Machine) :
    Run (Instruction × Next) :=
  attempt machine.fetch >>= fun fetched =>
  charge fetched.2.cost >>= fun _ =>
  carryOut nested context machine fetched

/-- Note an instruction that was performed, and move on. -/
def conclude (machine : Machine) (performed : Instruction × Next) : Run (Option Halt) :=
  record performed.1.opcode machine.books.meter.remaining >>= fun _ =>
  proceed (machine.position + performed.1.length) performed.2

/-- A step is its phases one after the other. -/
theorem stepWith_eq (nested : Run Halt) (context : Context) :
    stepWith nested context =
      get >>= fun machine => perform nested context machine >>= conclude machine := by
  unfold stepWith
  congr 1
  funext machine
  simp only [perform, carryOut, conclude, bind_assoc, pure_bind]
  unfold fetch
  cases decoded : machine.tape.decode machine.position with
  | error cause => rfl
  | ok instruction =>
      simp only [attempt, pure_bind]
      cases selected : instruction.opcode.operation? with
      | none => rfl
      | some operation =>
          simp only
          by_cases early : machine.version < instruction.opcode.since
          · simp only [if_pos early]
            rfl
          · simp only [if_neg early, pure_bind]
            congr 1
            funext _
            unfold allow
            by_cases short : lacks machine.stack operation.operands = true
            · simp only [if_pos short]
              rfl
            · simp only [if_neg short]
              by_cases long : 0x100000000 ≤ machine.position + instruction.length
              · simp only [if_pos long]
                rfl
              · simp only [if_neg long]
                rfl

/-! ### Charges -/

/-- A meter from which some gas was taken. -/
def paid (meter : Meter) (amount : Nat) : Meter :=
  { meter with
    remaining := meter.remaining - amount
    used := meter.used + amount
    charges := meter.charges + 1 }

/-- Whether the next charge of a meter looks at the deadline and finds it
passed. -/
def late (meter : Meter) : Prop :=
  meter.expired = true ∧ (meter.charges + 1) % Meter.deadlineInterval = 0

instance (meter : Meter) : Decidable (late meter) :=
  inferInstanceAs (Decidable (_ ∧ _))

/-- What a charge does to a meter. -/
theorem run_chargeMeter (amount : Nat) (meter : Meter) :
    (Meter.charge amount).run meter =
      if meter.remaining < amount then
        .error (.runLimitExceeded amount meter.remaining) { meter with exhausted := true }
      else if late meter then .error .deadlineExceeded (paid meter amount)
      else .ok () (paid meter amount) := by
  by_cases poor : meter.remaining < amount
  · simp [Meter.charge, EStateM.run_bind, poor]
  · rw [if_neg poor]
    by_cases looks : (meter.charges + 1) % Meter.deadlineInterval = 0
    · cases expired : meter.expired with
      | true => simp [Meter.charge, EStateM.run_bind, poor, looks, Meter.checkDeadline, expired,
          late, paid]
      | false => simp [Meter.charge, EStateM.run_bind, poor, looks, Meter.checkDeadline, expired,
          late, paid]
    · simp [Meter.charge, EStateM.run_bind, poor, looks, late, paid]

/-- What a charge does to books. -/
def chargeBooks (amount : Nat) (books : Books) : EStateM.Result Stop Books Unit :=
  if books.meter.remaining < amount then
    .error (.fault .runLimitExceeded) { books with meter.exhausted := true }
  else if late books.meter then
    .error (.fault .deadlineExceeded) { books with meter := paid books.meter amount }
  else .ok () { books with meter := paid books.meter amount }

/-- A charge looks at the allowance first and lowers it last. -/
theorem run_charge (amount : Nat) (machine : Machine) :
    (charge amount).run machine =
      if machine.allowance.any (· < amount) then
        .error (.fault .runLimitExceeded) machine
      else
        match chargeBooks amount machine.books with
        | .error stop books => .error stop { machine with books := books }
        | .ok () books =>
            .ok () { machine with
              books := books
              allowance := machine.allowance.map (· - amount) } := by
  unfold charge
  rw [EStateM.run_bind, EStateM.run_get]
  simp only
  by_cases capped : machine.allowance.any (· < amount) = true
  · simp only [if_pos capped]
    rfl
  · simp only [if_neg capped]
    unfold chargeBooks
    rw [run_chargeMeter]
    by_cases poor : machine.books.meter.remaining < amount
    · simp only [if_pos poor]
      rfl
    · by_cases deadline : late machine.books.meter
      · simp only [if_neg poor, if_pos deadline]
        rfl
      · simp only [if_neg poor, if_neg deadline]
        rfl

/-- A charge changes at most the meter and the allowance. -/
theorem exists_run_charge (amount : Nat) (machine : Machine) :
    ∃ meter allowance, Runs.final ((charge amount).run machine) =
      { machine with books.meter := meter, allowance := allowance } := by
  rw [run_charge]
  split
  · exact ⟨machine.books.meter, machine.allowance, rfl⟩
  · unfold chargeBooks
    by_cases poor : machine.books.meter.remaining < amount
    · rw [if_pos poor]
      exact ⟨_, machine.allowance, rfl⟩
    · rw [if_neg poor]
      by_cases overdue : late machine.books.meter
      · rw [if_pos overdue]
        exact ⟨_, machine.allowance, rfl⟩
      · rw [if_neg overdue]
        exact ⟨_, _, rfl⟩

/-- A charge that is met takes its gas and changes nothing else. -/
theorem charge_eq_ok {amount : Nat} {machine after : Machine}
    (charged : (charge amount).run machine = .ok () after) :
    amount ≤ machine.books.meter.remaining ∧
      after = { machine with
        books.meter := paid machine.books.meter amount
        allowance := machine.allowance.map (· - amount) } := by
  rw [run_charge] at charged
  split at charged
  · cases charged
  · unfold chargeBooks at charged
    by_cases poor : machine.books.meter.remaining < amount
    · simp only [if_pos poor] at charged
      cases charged
    · simp only [if_neg poor] at charged
      by_cases deadline : late machine.books.meter
      · simp only [if_pos deadline] at charged
        cases charged
      · simp only [if_neg deadline] at charged
        cases charged
        exact ⟨Nat.le_of_not_lt poor, rfl⟩

/-- A charge is refused when the deadline has passed, or for want of gas: of what is left
under the allowance, or of what is left on the meter, which is then exhausted. -/
theorem charge_eq_error {amount : Nat} {machine after : Machine} {stop : Stop}
    (refused : (charge amount).run machine = .error stop after) :
    (stop = .fault .deadlineExceeded ∧ machine.books.meter.expired = true) ∨
      (stop = .fault .runLimitExceeded ∧
        ((∃ own, machine.allowance = some own ∧ own < amount) ∨
          (machine.books.meter.remaining < amount ∧ after.books.meter.exhausted = true))) := by
  rw [run_charge] at refused
  by_cases capped : machine.allowance.any (· < amount) = true
  · simp only [if_pos capped] at refused
    cases refused
    obtain ⟨own, granted, less⟩ := (Option.any_eq_true _ _).mp capped
    exact .inr ⟨rfl, .inl ⟨own, granted, of_decide_eq_true less⟩⟩
  · simp only [if_neg capped, chargeBooks] at refused
    by_cases poor : machine.books.meter.remaining < amount
    · simp only [if_pos poor] at refused
      cases refused
      exact .inr ⟨rfl, .inr ⟨poor, rfl⟩⟩
    · by_cases overdue : late machine.books.meter
      · simp only [if_neg poor, if_pos overdue] at refused
        cases refused
        exact .inl ⟨rfl, overdue.1⟩
      · simp only [if_neg poor, if_neg overdue] at refused
        cases refused

/-- A push charges for its item first. -/
theorem run_push (item : Bytes) (machine : Machine) :
    (push item).run machine =
      match (charge (itemCost + item.length)).run machine with
      | .ok () after => .ok () { after with stack := item :: after.stack }
      | .error stop after => .error stop after := by
  rw [push, EStateM.run_bind]
  cases (charge (itemCost + item.length)).run machine <;> rfl

/-- What is attempted and succeeds leaves the machine as it was. -/
theorem attempt_eq_ok {Result : Type} {attempted : Except Fault Result} {result : Result}
    {machine after : Machine} :
    (attempt attempted).run machine = .ok result after ↔
      attempted = .ok result ∧ machine = after := by
  cases attempted with
  | error cause =>
      constructor
      · intro impossible
        cases impossible
      · rintro ⟨impossible, -⟩
        cases impossible
  | ok found =>
      constructor
      · intro finished
        cases finished
        exact ⟨rfl, rfl⟩
      · rintro ⟨equal, rfl⟩
        cases equal
        rfl

/-! ### Effects -/

def payToll : Option Nat → Run Unit
  | some toll => charge toll
  | none => pure ()

def noteQuery : Option OutputQuery → Run Unit
  | some query => note (.asked query)
  | none => pure ()

/-- Push what an effect gives, or stop as it does. -/
def deliver : Except Stop (List Bytes) → Run Unit
  | .ok items => pushAll items
  | .error stop => throw stop

theorem settle_eq (effect : StackEffect) :
    settle effect =
      payToll effect.toll >>= fun _ =>
      setStack effect.stack >>= fun _ =>
      noteQuery effect.query >>= fun _ =>
      deliver effect.outcome := by
  obtain ⟨toll, stack, query, outcome⟩ := effect
  cases toll with
  | none =>
      cases query with
      | none => cases outcome <;> rfl
      | some query => cases outcome <;> rfl
  | some toll =>
      cases query with
      | none => cases outcome <;> rfl
      | some query => cases outcome <;> rfl

/-- Carry out an operation that only affects the data stack. -/
def affect (effect : List Bytes → StackEffect) : Run Next :=
  get >>= fun machine =>
  settle (effect machine.stack) >>= fun _ =>
  pure .following

/-! ### Predicates -/

/-- The caller of a nested run that has ended with some books. -/
def Call.caller (call : Call) (caller : Machine) (books : Books) : Machine :=
  { caller with
    stack := call.rest
    allowance := caller.allowance.map (· - (books.meter.used - caller.books.meter.used))
    books := books }

/-- How a run ended, without the state that it left. -/
def outcomeOf {Result : Type} :
    EStateM.Result Stop Machine Result → Except Stop Result
  | .ok result _ => .ok result
  | .error stop _ => .error stop

/-- Go on after a nested run as its outcome says. -/
def resume : Except Stop Bool → Run Unit
  | .ok succeeded => push (Number.ofTruth succeeded)
  | .error stop => throw stop

/-- What `CHECKPREDICATE` does, in full. -/
theorem run_checkPredicate (nested : Run Halt) (caller : Machine) :
    (checkPredicate nested).run caller =
      if maxDepth ≤ caller.depth then
        .error (.fault (.disallowedOpcode predicateOpcode)) caller
      else
        match Call.ofStack caller.stack with
        | .error stop => .error stop caller
        | .ok call =>
            let ended := nested.run (call.machine caller)
            let books := (Runs.final ended).books
            (resume (verdictOf books.meter.exhausted (outcomeOf ended))).run
              (call.caller caller books) := by
  unfold checkPredicate
  rw [EStateM.run_bind, EStateM.run_get]
  simp only
  by_cases deep : maxDepth ≤ caller.depth
  · simp only [if_pos deep]
    rfl
  · simp only [if_neg deep]
    cases read : Call.ofStack caller.stack with
    | error stop => rfl
    | ok call =>
        simp only
        cases ended : nested.run (call.machine caller) with
        | ok halt machine =>
            cases verdict : verdictOf machine.books.meter.exhausted (.ok halt) with
            | ok succeeded => simp [verdict, outcomeOf, resume, Call.caller]
            | error stop => simp [verdict, outcomeOf, resume, Call.caller]
        | error stop machine =>
            cases verdict : verdictOf machine.books.meter.exhausted (.error stop) with
            | ok succeeded => simp [verdict, outcomeOf, resume, Call.caller]
            | error stop => simp [verdict, outcomeOf, resume, Call.caller]

/-! ### Conclusions -/

/-- An instruction that neither jumps nor halts takes a machine past it, and at most the
journal notes that. -/
theorem exists_run_conclude (before machine : Machine) (instruction : Instruction) :
    ∃ journal, (conclude before (instruction, .following)).run machine =
      .ok none { machine with
        position := before.position + instruction.length
        books.journal := journal } := by
  have recorded : ∃ journal,
      (record instruction.opcode before.books.meter.remaining).run machine =
        .ok () { machine with books.journal := journal } := by
    simp only [record, EStateM.run_bind, EStateM.run_get]
    split
    · exact ⟨_, rfl⟩
    · exact ⟨machine.books.journal, rfl⟩
  obtain ⟨journal, ran⟩ := recorded
  exact ⟨journal, by rw [conclude, EStateM.run_bind, ran]; rfl⟩

/-- An instruction that cannot be paid for is not carried out. -/
theorem run_stepWith_of_refused {nested : Run Halt} {context : Context}
    {machine after : Machine} {instruction : Instruction} {operation : Operation} {stop : Stop}
    (fetched : machine.fetch = .ok (instruction, operation))
    (refused : (charge operation.cost).run machine = .error stop after) :
    (stepWith nested context).run machine = .error stop after := by
  rw [stepWith_eq, EStateM.run_bind, EStateM.run_get]
  simp only [perform, fetched, attempt, pure_bind, bind_assoc]
  rw [EStateM.run_bind, refused]

/-- An instruction that was fetched and is allowed is paid for and counted, and what its
operation does decides how the step goes on. -/
theorem run_stepWith_of_allowed {nested : Run Halt} {context : Context} {machine : Machine}
    {instruction : Instruction} {operation : Operation}
    (fetched : machine.fetch = .ok (instruction, operation))
    (allowed : machine.allow instruction operation = .ok ()) :
    (stepWith nested context).run machine =
      (charge operation.cost >>= fun _ =>
        countStart >>= fun _ =>
        execute nested context instruction.data operation >>= fun next =>
        conclude machine (instruction, next)).run machine := by
  rw [stepWith_eq, EStateM.run_bind, EStateM.run_get]
  simp only [perform, carryOut, fetched, allowed, attempt, pure_bind, bind_assoc]

/-! ### Loops -/

/-- The states of a loop that goes on. -/
theorem loop_of_running {step : Run (Option Halt)} {machine : Machine}
    (running : machine.position < machine.tape.length) :
    loop step machine =
      match step.run machine with
      | .error stop after => .error stop after
      | .ok (some halt) after => .ok halt after
      | .ok none after =>
          if after.books.meter.remaining < machine.books.meter.remaining then loop step after
          else .error (.breach .stalled) after := by
  rw [loop]
  exact if_pos running

theorem loop_of_finished {step : Run (Option Halt)} {machine : Machine}
    (finished : ¬ machine.position < machine.tape.length) :
    loop step machine = .ok machine.haltAtEnd machine := by
  rw [loop, if_neg finished]

end EntryLedger.Machine
