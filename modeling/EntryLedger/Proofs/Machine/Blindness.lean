import EntryLedger.Proofs.Machine.RunLimit
import EntryLedger.Proofs.Machine.Termination

/-!
# Programs of the first version

The instructions that read the block came with the second version of the machine.  A
machine of the first version does not even pay for them: fetching them fails.  As the
version of a machine never changes and is handed on to nested machines, nothing that a
program of the first version does depends on the block.
-/

namespace EntryLedger

/-- The same context in another block. -/
def Context.atBlock (context : Context) (height time : UInt64) : Context :=
  { context with blockHeight := height, blockTime := time }

namespace Machine

variable {context : Context} {height time : UInt64} {machine : Machine}

/-- A machine of the first version fetches no instruction that reads the block. -/
theorem ne_block_of_fetch (first : machine.version = 1) {instruction : Instruction}
    {observe : Observe} (fetched : machine.fetch = .ok (instruction, .observe observe)) :
    observe ≠ .blockHeight ∧ observe ≠ .blockTime := by
  obtain ⟨-, selected, known⟩ := fetch_eq_ok.mp fetched
  rw [first, Opcode.since, selected] at known
  constructor
  · rintro rfl
    exact absurd known (by decide)
  · rintro rfl
    exact absurd known (by decide)

theorem effect_atBlock {observe : Observe}
    (blind : observe ≠ .blockHeight ∧ observe ≠ .blockTime) :
    observe.effect (context.atBlock height time) = observe.effect context := by
  cases observe with
  | blockHeight => exact (blind.1 rfl).elim
  | blockTime => exact (blind.2 rfl).elim
  | _ => rfl

/-- Whatever moves a machine makes, it keeps its version. -/
theorem Moving.version {Result : Type} {inner : Machine → Machine → Prop}
    {action : Run Result} (moving : Moving inner action) (machine : Machine) :
    (Runs.final (action.run machine)).version = machine.version :=
  (moving machine).fixed.2

/-- A run of a machine of the first version is the same in every block, at whatever level
the machine is nested. -/
theorem run_atBlock (first : machine.version = 1) :
    (run (context.atBlock height time)).run machine = (run context).run machine := by
  induction machine using run_induction context with
  | next machine below later =>
      have verifier : (context.atBlock height time).verifySignature = context.verifySignature :=
        rfl
      have stepped : (stepWith (run (context.atBlock height time))
          (context.atBlock height time)).run machine =
            (stepWith (run context) context).run machine := by
        apply run_stepWith_congr_of_observed verifier
        · intro instruction observe fetched
          exact effect_atBlock (ne_block_of_fetch first fetched)
        · intro callee deep shallow version
          exact below callee deep shallow (version.trans first)
      rw [run_eq, run_eq, stepped]
      by_cases running : machine.position < machine.tape.length
      · rw [if_pos running, if_pos running]
        have moving : Moving Precedes (stepWith (run context) context) :=
          moving_stepWith (advances_run context) context
        have version := moving.version machine
        cases ran : (stepWith (run context) context).run machine with
        | error stop after => rfl
        | ok halted after =>
            cases halted with
            | some halt => rfl
            | none =>
                rw [ran] at version
                exact later after ran (version.trans first)
      · rw [if_neg running, if_neg running]

/-- Has a predicate tell whether the height of the block is above zero. -/
def heightPredicate : Bytes :=
  [0x00, 0x01, 0xcd, 0x00, 0xc0]

/-- The second version does see the block. -/
example :
    let machine := start heightPredicate 2 (.ofMeter (.flat 1000) false)
    (outcomeOf ((run (bareContext.atBlock 7 0)).run machine)).toOption = some .success ∧
      (outcomeOf ((run (bareContext.atBlock 0 0)).run machine)).toOption =
        some .falseResult := by
  decide +kernel

theorem runOn_atBlock (first : machine.version = 1) (arguments : List Bytes) :
    (runOn (context.atBlock height time) arguments).run machine =
      (runOn context arguments).run machine := by
  have pushing : Moving Precedes (pushAll arguments) := moving_pushAll arguments
  have version := pushing.version machine
  apply Runs.bind_congr rfl
  intro _ pushed ran
  rw [ran] at version
  exact run_atBlock (version.trans first)

/-- A check of a program of the first version ends in the same way in every block, with
the same gas and the same journal. -/
theorem authorise_atBlock (context : Context) (height time : UInt64) {program : Program}
    (first : program.version = 1) (arguments : List Bytes) (books : Books) :
    (authorise (context.atBlock height time) program arguments).run books =
      (authorise context program arguments).run books := by
  have supported : (context.atBlock height time).maxVersion = context.maxVersion := rfl
  have same (code : Bytes) : (runOn (context.atBlock height time) arguments).run
      (start code program.version books) =
        (runOn context arguments).run (start code program.version books) :=
    runOn_atBlock first arguments
  change authorise (context.atBlock height time) program arguments books =
    authorise context program arguments books
  simp only [authorise, supported, same]

end Machine

end EntryLedger
