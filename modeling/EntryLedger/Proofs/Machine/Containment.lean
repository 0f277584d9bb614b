import EntryLedger.Proofs.Machine.Intact
import EntryLedger.Proofs.Machine.RunLimit
import EntryLedger.Proofs.Machine.Solvent

/-!
# Predicates are contained

Whatever a predicate does on its own machine, its caller sees one truth value, or it is
stopped as well, for want of shared gas or of time.  Other failures of a nested run, at any
level, only make the predicate false.
-/

namespace EntryLedger.Machine

/-! ### What a nested run leaves to its caller -/

/-- Whether a run has ended with success. -/
def succeeds (outcome : Except Stop Halt) : Bool :=
  outcome = .ok .success

theorem succeeds_iff {ended : EStateM.Result Stop Machine Halt} :
    succeeds (outcomeOf ended) = true ↔ ∃ after, ended = .ok .success after := by
  cases ended with
  | ok halt after => cases halt <;> simp [succeeds, outcomeOf]
  | error stop after => simp [succeeds, outcomeOf]

/-- A nested run that has not breached gives its caller a truth value, unless it was late or
the meter has refused gas. -/
theorem verdictOf_cases {exhausted : Bool} {outcome : Except Stop Halt}
    (intact : ∀ cause, outcome ≠ .error (.breach cause)) :
    verdictOf exhausted outcome = .ok (succeeds outcome) ∨
      verdictOf exhausted outcome = .error (.fault .deadlineExceeded) ∨
      verdictOf exhausted outcome = .error (.fault .runLimitExceeded) ∧ exhausted = true := by
  cases outcome with
  | ok halt => cases halt <;> exact .inl rfl
  | error stop =>
      cases stop with
      | breach cause => exact absurd rfl (intact cause)
      | fault cause =>
          unfold verdictOf
          split
          · rename_i halted
            cases halted
          · rename_i breached
            cases breached
          · exact .inr (.inl rfl)
          · split
            · rename_i refused
              exact .inr (.inr ⟨rfl, refused⟩)
            · exact .inl rfl

/-! ### Steps -/

section Step

variable {machine caller : Machine} {call : Call}

/-- The machine of a predicate is a fresh one with the items of the call.  It shares the books
of its caller and has the smaller one of the limit and what is left to the caller. -/
theorem Calls.machine_eq (calls : Calls machine call caller) :
    let own := machine.allowance.map (· - 256)
    call.machine caller = {
      tape := .ofProgram call.predicate
      version := machine.version
      position := 0
      stack := call.items
      alt := []
      depth := machine.depth + 1
      allowance := if call.limit = 0 then own else some (own.elim call.limit (min call.limit))
      books := {
        meter := paid machine.books.meter 256
        started := machine.books.started + 1
        traced := machine.books.traced
        journal := .entered (machine.depth + 1) :: machine.books.journal } } := by
  rw [calls.caller_eq]
  have granted (own : Option Nat) : call.allowance own =
      if call.limit = 0 then own else some (own.elim call.limit (min call.limit)) := by
    unfold Call.allowance
    cases own with
    | none => rfl
    | some left => rfl
  simp only [Call.machine, granted]
  rfl

/-- A step that makes a call goes on with the truth value of the nested run, unless the
caller cannot pay for it, or it is stopped itself. -/
theorem Calls.step_cases (context : Context) (calls : Calls machine call caller) :
    let ended := (run context).run (call.machine caller)
    let books := (Runs.final ended).books
    let item := Number.ofTruth (succeeds (outcomeOf ended))
    (∃ instruction after, machine.fetch = .ok (instruction, .checkPredicate) ∧
        (step context).run machine = .ok none after ∧
        after.stack = item :: call.rest ∧ after.alt = machine.alt ∧
        after.position = machine.position + instruction.length) ∨
      (∃ after, (step context).run machine = .error (.fault .deadlineExceeded) after) ∨
      ∃ after, (step context).run machine = .error (.fault .runLimitExceeded) after ∧
        (after.books.meter.exhausted = true ∨
          ∃ own, (call.caller caller books).allowance = some own ∧
            own < itemCost + item.length) := by
  intro ended books item
  obtain ⟨instruction, fetched, stepped⟩ : ∃ instruction, _ ∧
      (stepWith (run context) context).run machine = _ := calls.run_stepWith (run context)
  have intact : ∀ cause, outcomeOf ended ≠ .error (.breach cause) := by
    intro cause breached
    cases ran : ended with
    | ok halt after =>
        rw [ran] at breached
        cases breached
    | error stop after =>
        rw [ran] at breached
        cases breached
        exact intact_run context (call.machine caller) cause after ran
  rw [run_step, stepped]
  simp only
  have verdict : verdictOf books.meter.exhausted (outcomeOf ended) = _ ∨ _ :=
    verdictOf_cases intact
  rcases verdict with answered | late | ⟨short, refused⟩
  · rw [answered, EStateM.run_bind]
    simp only [resume, run_push]
    cases charged : (charge (itemCost + item.length)).run (call.caller caller books) with
    | ok result paidFor =>
        obtain ⟨journal, concluded⟩ := exists_run_conclude machine
          { paidFor with stack := item :: paidFor.stack } instruction
        obtain ⟨-, rfl⟩ := charge_eq_ok charged
        refine .inl ⟨instruction, _, fetched, concluded, rfl, ?_, rfl⟩
        rw [calls.caller_eq]
        rfl
    | error stop after =>
        rcases charge_eq_error charged with ⟨rfl, -⟩ | ⟨rfl, poor⟩
        · exact .inr (.inl ⟨_, rfl⟩)
        · exact .inr (.inr ⟨_, rfl, poor.symm.imp And.right id⟩)
  · rw [late]
    exact .inr (.inl ⟨_, rfl⟩)
  · rw [short]
    exact .inr (.inr ⟨_, rfl, .inl refused⟩)

end Step

/-- An instruction that calls a predicate takes its three operands and the items that they
count off the stack, and pushes one item, which tells whether a fresh machine on these items
halts with success.  It fails only with the deadline or for want of gas: when the shared meter
has refused a charge, or when the allowance of the caller is not enough for the instruction
or, after the nested run, for the result.  The instruction has to be in front of a position
that can be told in four bytes, as in every program of at most the greatest length. -/
theorem checkPredicate_contains (context : Context) {machine : Machine}
    {instruction : Instruction} {limitItem predicate countItem : Bytes}
    {items rest : List Bytes} {limit : Nat} {count : Int}
    (shallow : machine.depth < maxDepth)
    (fetched : machine.fetch = .ok (instruction, .checkPredicate))
    (room : machine.position + instruction.length < 0x100000000)
    (stacked : machine.stack = limitItem :: predicate :: countItem :: (items ++ rest))
    (limited : Number.read limitItem = some (limit : Int))
    (counted : Number.read countItem = some count)
    (counts : count = items.length ∨ (count = -1 ∧ rest = [])) :
    let own := machine.allowance.map (· - 256)
    let nested : Machine := {
      tape := .ofProgram predicate
      version := machine.version
      position := 0
      stack := items
      alt := []
      depth := machine.depth + 1
      allowance := if limit = 0 then own else some (own.elim limit (min limit))
      books := {
        meter := paid machine.books.meter 256
        started := machine.books.started + 1
        traced := machine.books.traced
        journal := .entered (machine.depth + 1) :: machine.books.journal } }
    let ended := (run context).run nested
    let spent := (Runs.final ended).books.meter.used - nested.books.meter.used
    match (step context).run machine with
    | .ok halted after =>
        halted = none ∧ after.position = machine.position + instruction.length ∧
          after.alt = machine.alt ∧
          ∃ item, after.stack = item :: rest ∧
            (Number.truth item = true ↔ ∃ final, ended = .ok .success final)
    | .error stop after =>
        (stop = .fault .runLimitExceeded ∨ stop = .fault .deadlineExceeded) ∧
          (stop = .fault .runLimitExceeded →
            after.books.meter.exhausted = true ∨
              (∃ allowance, machine.allowance = some allowance ∧ allowance < 256) ∨
              ∃ left, own = some left ∧
                left - spent < 8 + (Number.ofTruth (succeeds (outcomeOf ended))).length) := by
  intro own nested ended spent
  cases charged : (charge Operation.checkPredicate.cost).run machine with
  | error stop after =>
      rw [run_step, run_stepWith_of_refused fetched charged]
      rcases charge_eq_error charged with ⟨rfl, -⟩ | ⟨rfl, poor⟩
      · exact ⟨.inr rfl, fun other => by cases other⟩
      · exact ⟨.inl rfl, fun _ => poor.symm.imp And.right .inl⟩
  | ok result waiting =>
      have enough : Operation.checkPredicate.operands ≤ machine.stack.length := by
        rw [stacked]
        exact Nat.le_add_left 3 _
      have read : Call.ofStack (limitItem :: predicate :: countItem :: (items ++ rest)) = _ :=
        Call.ofStack_eq limited counted counts
      rw [← stacked] at read
      have calls := Calls.intro fetched charged (allow_eq_ok enough room) shallow read
      have entered : Call.machine _ _ = nested := calls.machine_eq
      have steps := calls.step_cases context
      rw [entered] at steps
      rcases steps with ⟨found, after, fetched', stepped, pushed, kept, moved⟩ |
        ⟨after, late⟩ | ⟨after, stopped, poor⟩
      · rw [stepped]
        obtain ⟨rfl, -⟩ := Prod.mk.inj (Except.ok.inj (fetched.symm.trans fetched'))
        refine ⟨rfl, moved, kept, _, pushed, ?_⟩
        rw [Number.truth_ofTruth]
        exact succeeds_iff
      · rw [late]
        exact ⟨.inr rfl, fun other => by cases other⟩
      · rw [stopped]
        refine ⟨.inl rfl, fun _ => poor.imp_right fun unpaid => .inr ?_⟩
        rw [calls.caller_eq] at unpaid
        obtain ⟨left, granted, less⟩ := unpaid
        obtain ⟨before, waiting, rfl⟩ := Option.map_eq_some_iff.mp granted
        exact ⟨before, waiting, less⟩

/-- `VERIFY` is called as a predicate on one empty item. -/
def refutingMachine : Machine :=
  { start [0xc0] 1 (.ofMeter (.flat 400) false) with stack := [[], [0x69], [1], [], [7]] }

/-- The machine of that predicate. -/
def refutedMachine : Machine :=
  { start [0x69] 1 (.ofMeter (.flat 400) false) with
    stack := [[]]
    depth := 1
    books := {
      meter := paid (.flat 400) 256
      started := 1
      traced := false
      journal := [.entered 1, .entered 0] } }

/-- The verification fails, but its caller goes on with a false item. -/
theorem checkPredicate_contains_of_refutingMachine :
    outcomeOf ((run bareContext).run refutedMachine) = .error (.fault .verifyFailed) ∧
      outcomeOf ((step bareContext).run refutingMachine) = .ok none ∧
      ∃ item, (Runs.final ((step bareContext).run refutingMachine)).stack = [item, [7]] ∧
        Number.truth item = false := by
  have fails : outcomeOf ((run bareContext).run refutedMachine) =
      .error (.fault .verifyFailed) := by
    decide +kernel
  have answered : outcomeOf ((step bareContext).run refutingMachine) = .ok none := by
    decide +kernel
  have fetched : refutingMachine.fetch =
      .ok ({ opcode := 0xc0, length := 1, data := [] }, .checkPredicate) := by
    decide +kernel
  have stacked : refutingMachine.stack = [] :: [0x69] :: [1] :: ([[]] ++ [[7]]) := rfl
  have limited : Number.read [] = some ((0 : Nat) : Int) := by decide
  have counted : Number.read [1] = some 1 := by decide
  have contained := checkPredicate_contains bareContext (by decide) fetched (by decide) stacked
    limited counted (.inl rfl)
  refine ⟨fails, answered, ?_⟩
  cases ran : (step bareContext).run refutingMachine with
  | error stop after =>
      rw [ran] at answered
      cases answered
  | ok halted after =>
      rw [ran] at contained
      obtain ⟨-, -, -, item, pushed, truth⟩ := contained
      refine ⟨item, pushed, Bool.eq_false_iff.mpr fun accepted => ?_⟩
      obtain ⟨final, succeeded⟩ := truth.mp accepted
      have success : (run bareContext).run refutedMachine = .ok .success final := succeeded
      rw [success] at fails
      cases fails

end EntryLedger.Machine
