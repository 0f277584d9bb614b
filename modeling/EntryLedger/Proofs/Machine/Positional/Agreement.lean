import EntryLedger.Proofs.Machine.Memory
import EntryLedger.Proofs.Machine.Positional.Follow

/-!
# The machine by position never slips

An operation is only carried out on a stack that holds its operands, and then everything
that it reaches for is there.  A nested walk follows its nested run, and so a walk follows
its run step by step.
-/

namespace EntryLedger.Positional

open Access
open Machine (Call maxDepth)

/-! ### Predicates -/

/-- Both ways to give the number of items come to the same number. -/
theorem handed_reverse {first second third : Bytes} {below : List Bytes} {number : Int}
    (enough : 3 ≤ (first :: second :: third :: below).length) (least : -1 ≤ number) :
    handed (first :: second :: third :: below).reverse number =
      .ok (if number = -1 then below.length else number.toNat) := by
  unfold handed
  split
  · rw [difference_reverse enough]
    rfl
  · rw [if_pos (by omega)]
    rfl

theorem callOf_reverse {stack : List Bytes} (fits : Fits stack) (enough : 3 ≤ stack.length) :
    callOf stack.reverse =
      match Call.ofStack stack with
      | .ok call => .ok call
      | .error stop => early stop := by
  obtain ⟨limitItem, predicate, countItem, below, rfl, -⟩ := exists_three enough
  have short := fits.count
  have word : maxSize ≤ maxWord := by decide
  simp only [List.length_cons] at short
  simp only [callOf, peekNumber_reverse, List.getElem?_cons_zero, List.getElem?_cons_succ,
    Call.ofStack]
  cases Number.read limitItem with
  | none => rfl
  | some limit =>
      simp only [Checks.ok_bind]
      cases Number.read countItem with
      | none => by_cases negative : limit < 0 <;> rfl
      | some number =>
          simp only [Checks.ok_bind]
          by_cases negative : limit < 0
          · rw [if_pos negative, if_pos negative]
            rfl
          · rw [if_neg negative, if_neg negative]
            by_cases fewer : number < -1
            · rw [if_pos fewer, handed, if_neg (by omega), if_neg (by omega)]
              rfl
            · rw [if_neg fewer, handed_reverse enough (Int.not_lt.mp fewer), Checks.ok_bind]
              generalize (if number = -1 then below.length else number.toNat) = taken
              have length : (limitItem :: predicate :: countItem :: below).reverse.length =
                  below.length + 3 := by
                simp
              rw [length, checkedSum_bind fun overflow => if_pos (by omega)]
              by_cases few : below.length < taken
              · rw [if_pos few, if_pos (by omega)]
                rfl
              · rw [if_neg few, if_neg (by omega)]
                simp only [pop_reverse, Checks.ok_bind]
                rw [difference_reverse (Nat.le_of_not_lt few), Checks.ok_bind,
                  splitAt_reverse, Checks.ok_bind]
                simp

/-- A machine that has room for all that it can still pay for. -/
structure Roomy (machine : Machine) : Prop where
  program : machine.tape.program.length ≤ maxSize
  memory : machine.memory + machine.books.meter.remaining ≤ maxSize

theorem length_le_held (items : List Bytes) : items.length ≤ held items := by
  induction items with
  | nil => exact Nat.le_refl _
  | cons item items ih =>
      rw [List.length_cons, held_cons]
      omega

theorem length_le_held_of_mem {item : Bytes} {items : List Bytes} (member : item ∈ items) :
    item.length ≤ held items := by
  induction items with
  | nil => simp at member
  | cons first items ih =>
      rw [held_cons]
      rcases List.mem_cons.mp member with rfl | later
      · omega
      · have := ih later
        omega

theorem Fits.of_held {items : List Bytes} (light : held items ≤ maxSize) : Fits items where
  count := Nat.le_trans (length_le_held items) light
  lengths := fun _ member => Nat.le_trans (length_le_held_of_mem member) light

theorem Roomy.inMemory {machine : Machine} (roomy : Roomy machine) : InMemory machine := by
  have memory := roomy.memory
  unfold Machine.memory at memory
  exact {
    program := roomy.program
    stack := Fits.of_held (by omega)
    alt := Fits.of_held (by omega) }

/-- What pays for all memory that it takes leaves room for the rest. -/
theorem Roomy.after {machine later : Machine} (roomy : Roomy machine)
    (precedes : machine.Precedes later) (funds : machine.Funds later)
    (tape : later.tape = machine.tape) : Roomy later := by
  have memory := roomy.memory
  have total := precedes.books.total
  unfold Machine.Funds at funds
  refine ⟨tape ▸ roomy.program, ?_⟩
  omega

/-- A predicate is taken from the stack of its caller, and so are its items. -/
theorem Roomy.call {caller : Machine} {call : Call} (roomy : Roomy caller)
    (read : Call.ofStack caller.stack = .ok call) : Roomy (call.machine caller) := by
  obtain ⟨limitItem, countItem, stacked, -⟩ := Call.ofStack_eq_ok read
  have memory := roomy.memory
  simp only [Machine.memory, stacked, held_cons, held_append] at memory
  constructor
  · simp only [Call.machine, Tape.program_ofProgram]
    omega
  · simp only [Machine.memory, Call.machine, held_nil]
    omega

section Steps

variable {nested : Walk Halt} {nested' : Run Halt}

@[simp]
theorem outcomeOf_lifted (ended : EStateM.Result Stop Machine Halt) :
    outcomeOf (lifted ended) = .ok (Machine.outcomeOf ended) := by
  cases ended with
  | ok halt after => rfl
  | error stop after => rfl

@[simp]
theorem final_lifted {Result : Type} (ended : EStateM.Result Stop Machine Result) :
    Runs.final (lifted ended) = Runs.final ended := by
  cases ended with
  | ok result after => rfl
  | error stop after => rfl

theorem follows_resume {crowded : Prop} {machine : Machine} (counted : Counted machine)
    (verdict : Except Stop Bool) :
    Follows crowded ((resume verdict).run machine) ((Machine.resume verdict).run machine) := by
  cases verdict with
  | ok succeeded => exact follows_push counted (Number.length_ofTruth_le_maxSize succeeded)
  | error stop => exact .inl rfl

/-- A nested run has used no less gas than there was used before. -/
theorem follows_takeBack {crowded : Prop} {caller : Machine} {call : Call}
    {ended : EStateM.Result Stop Machine Halt} (counted : Counted caller)
    (precedes : (call.machine caller).books.Precedes (Runs.final ended).books) :
    Follows crowded ((takeBack caller call (lifted ended)).run caller)
      ((Machine.resume (Machine.verdictOf (Runs.final ended).books.meter.exhausted
        (Machine.outcomeOf ended))).run (call.caller caller (Runs.final ended).books)) := by
  have used : caller.books.meter.used ≤ (Runs.final ended).books.meter.used := precedes.used
  have total := precedes.total
  have later : Counted (call.caller caller (Runs.final ended).books) :=
    Nat.le_trans (Nat.le_of_eq total) counted
  unfold takeBack
  rw [outcomeOf_lifted, final_lifted]
  simp only [reach, pure_bind, difference_eq_ok used]
  exact follows_resume later _

variable (advances : Machine.Advances nested')
  (below : ∀ callee, Counted callee →
    Follows (¬ Roomy callee) (nested.run callee) (nested'.run callee))
include advances below

theorem follows_checkPredicate {machine : Machine} (counted : Counted machine)
    (fits : Fits machine.stack) (enough : 3 ≤ machine.stack.length) :
    Follows (¬ Roomy machine) ((checkPredicate nested).run machine)
      ((Machine.checkPredicate nested').run machine) := by
  rw [Machine.run_checkPredicate, checkPredicate, EStateM.run_bind, EStateM.run_get]
  simp only
  by_cases deep : maxDepth ≤ machine.depth
  · rw [if_pos deep, if_pos deep]
    exact .inl rfl
  · rw [if_neg deep, if_neg deep, callOf_reverse fits enough]
    cases read : Call.ofStack machine.stack with
    | error stop => exact .inl rfl
    | ok call =>
        have word : maxDepth + 1 ≤ maxWord := by decide
        have start : { call.machine machine with depth := machine.depth + 1 } =
            call.machine machine :=
          rfl
        simp only [reach, pure_bind, sum_eq_ok (show machine.depth + 1 ≤ maxWord by omega),
          start]
        rcases below (call.machine machine) counted with same | ⟨crowded, after, full⟩
        · rw [same]
          exact follows_takeBack counted (advances (call.machine machine)).books
        · refine .inr ⟨fun roomy => crowded (roomy.call read), machine, ?_⟩
          rw [full]
          rfl

/-- What an operation reaches is there if its operands are. -/
theorem follows_execute {context : Context} (code : context.program.length ≤ maxSize)
    {machine : Machine} (counted : Counted machine) (inMemory : InMemory machine)
    {data : Bytes} (short : data.length ≤ maxSize) {operation : Operation}
    (enough : operation.operands ≤ machine.stack.length) :
    Follows (¬ Roomy machine) ((execute nested context data operation).run machine)
      ((Machine.execute nested' context data operation).run machine) := by
  have fits := inMemory.stack
  have heavy (heavy : maxSize < held machine.stack) : ¬ Roomy machine := by
    intro roomy
    have memory := roomy.memory
    unfold Machine.memory at memory
    omega
  cases operation with
  | push => exact (follows_push counted short).bind fun _ _ _ => .inl rfl
  | checkPredicate =>
      exact (follows_checkPredicate advances below counted fits enough).bind
        fun _ _ _ => .inl rfl
  | shuffle shuffle =>
      exact follows_affect counted heavy (.found (Shuffle.byPosition_reverse fits enough)
        (shuffle.fitting_effect fits))
  | splice splice => exact follows_affect counted heavy (Splice.finds_effect fits enough)
  | bitwise bitwise =>
      refine follows_affect counted heavy (.found ?_ (bitwise.fitting_effect fits))
      rw [Bitwise.byPosition_reverse enough]
      rfl
  | numeric numeric =>
      exact follows_affect counted heavy (.found (Numeric.byPosition_reverse enough)
        (numeric.fitting_effect _))
  | attest attest =>
      exact follows_affect counted heavy (.found (Attest.byPosition_reverse fits enough)
        (attest.fitting_effect _ _))
  | observe observe =>
      exact follows_affect counted heavy (.found (Observe.byPosition_reverse enough)
        (Observe.fitting_effect code observe _))
  | nop | jump | jumpIf | verify | fail | toAlt | fromAlt => exact .inl rfl

theorem follows_perform {context : Context} (code : context.program.length ≤ maxSize)
    {machine : Machine} (counted : Counted machine) (inMemory : InMemory machine) :
    Follows (¬ Roomy machine) ((perform nested context machine).run machine)
      ((Machine.perform nested' context machine).run machine) := by
  unfold perform Machine.perform Machine.carryOut
  rw [fetch_eq inMemory.program]
  refine (follows_attempt _).bind fun fetched _ attempted => ?_
  obtain ⟨found, rfl⟩ := Machine.attempt_eq_ok.mp attempted
  refine (follows_charge counted _).bind fun _ charged paid => ?_
  have funds := Machine.paying_charge fetched.2.cost machine
  have precedes := Machine.precedes_charge fetched.2.cost machine
  rw [paid, Runs.final_ok] at funds precedes
  obtain ⟨-, rfl⟩ := Machine.charge_eq_ok paid
  refine (follows_lift _).bind fun _ _ tested => ?_
  obtain ⟨allowed, rfl⟩ := Machine.attempt_eq_ok.mp tested
  refine (follows_lift _).bind fun _ begun counting => ?_
  have enough := Machine.operands_le_of_allow allowed
  -- What has begun is the same machine, but for what it has paid and counts.
  obtain ⟨stillCounted, stillInMemory, stillEnough, stillRoomy⟩ :
      Counted begun ∧ InMemory begun ∧ fetched.2.operands ≤ begun.stack.length ∧
        (Roomy machine → Roomy begun) := by
    have still := counted.after precedes
    have room (roomy : Roomy machine) := roomy.after precedes funds rfl
    cases counting
    exact ⟨still, ⟨inMemory.program, inMemory.stack, inMemory.alt⟩, enough,
      fun roomy => ⟨(room roomy).program, (room roomy).memory⟩⟩
  have executed := follows_execute advances below code stillCounted stillInMemory
    (length_data_le_of_fetch found) stillEnough
  exact (executed.mono fun crowded roomy => crowded (stillRoomy roomy)).bind
    fun _ _ _ => .inl rfl

theorem follows_stepWith {context : Context} (code : context.program.length ≤ maxSize)
    {machine : Machine} (counted : Counted machine) (inMemory : InMemory machine) :
    Follows (¬ Roomy machine) ((stepWith nested context).run machine)
      ((Machine.stepWith nested' context).run machine) := by
  rw [Machine.stepWith_eq, stepWith, EStateM.run_bind, EStateM.run_bind]
  exact (follows_perform advances below code counted inMemory).bind
    fun _ _ _ => follows_lift _

end Steps

/-! ### Runs -/

theorem tape_stepWith (nested : Run Halt) (context : Context) (machine : Machine) :
    (Runs.final ((Machine.stepWith nested context).run machine)).tape = machine.tape := by
  have moving : Machine.Moving (fun _ _ => True) (Machine.stepWith nested context) :=
    Machine.moving_stepWith (fun _ => trivial) context
  exact (moving machine).fixed.1

theorem follows_loop {nested : Walk Halt} {nested' : Run Halt}
    (advances : Machine.Advances nested')
    (below : ∀ callee, Counted callee →
      Follows (¬ Roomy callee) (nested.run callee) (nested'.run callee))
    {context : Context} (code : context.program.length ≤ maxSize)
    (machine : Machine) (counted : Counted machine) :
    Follows (¬ Roomy machine) (loop (stepWith nested context) machine)
      (Machine.loop (Machine.stepWith nested' context) machine) := by
  induction gas : machine.books.meter.remaining using Nat.strongRecOn
    generalizing machine with
  | ind gas ih =>
      rw [loop]
      by_cases inMemory : InMemory machine
      · rw [if_neg (not_not_intro inMemory)]
        by_cases running : machine.position < machine.tape.length
        · have stepped := follows_stepWith advances below code counted inMemory
          rw [if_pos running, Machine.loop_of_running running]
          rcases stepped with same | ⟨crowded, after, full⟩
          · rw [same]
            cases ran : (Machine.stepWith nested' context).run machine with
            | error stop after => exact .inl rfl
            | ok halted after =>
                cases halted with
                | some halt => exact .inl rfl
                | none =>
                    simp only [lifted]
                    split
                    · rename_i lower
                      have funds := Machine.paying_stepWith advances context machine
                      have precedes := Machine.advances_stepWith advances context machine
                      have tape := tape_stepWith nested' context machine
                      rw [ran] at funds precedes tape
                      refine (ih _ (gas ▸ lower) after (counted.after precedes) rfl).mono ?_
                      exact fun crowded roomy => crowded (roomy.after precedes funds tape)
                    · exact .inl rfl
          · rw [full]
            exact .inr ⟨crowded, after, rfl⟩
        · rw [if_neg running, Machine.loop_of_finished running]
          exact .inl rfl
      · rw [if_pos inMemory]
        exact .inr ⟨fun roomy => inMemory roomy.inMemory, machine, rfl⟩

theorem follows_runLevels {context : Context} (code : context.program.length ≤ maxSize)
    (levels : Nat) (machine : Machine) (counted : Counted machine) :
    Follows (¬ Roomy machine) ((runLevels context levels).run machine)
      ((Machine.runLevels context levels).run machine) := by
  induction levels generalizing machine with
  | zero =>
      exact follows_loop (Machine.advances_throw _) (fun _ _ => .inl rfl) code machine counted
  | succ levels ih =>
      exact follows_loop (Machine.advances_runLevels context levels) ih code machine counted

theorem run_run (context : Context) (machine : Machine) :
    (run context).run machine =
      (runLevels context (maxDepth - machine.depth)).run machine :=
  rfl

theorem follows_run {context : Context} (code : context.program.length ≤ maxSize)
    (machine : Machine) (counted : Counted machine) :
    Follows (¬ Roomy machine) ((run context).run machine)
      ((Machine.run context).run machine) := by
  rw [run_run, Machine.run_run]
  exact follows_runLevels code _ machine counted

theorem run_step (context : Context) (machine : Machine) :
    (step context).run machine =
      (stepWith (runLevels context (maxDepth - machine.depth - 1)) context).run machine :=
  rfl

theorem follows_step {context : Context} (code : context.program.length ≤ maxSize)
    {machine : Machine} (counted : Counted machine) (inMemory : InMemory machine) :
    Follows (¬ Roomy machine) ((step context).run machine)
      ((Machine.step context).run machine) := by
  have unfolded : (Machine.step context).run machine =
      (Machine.stepWith (Machine.runLevels context (maxDepth - machine.depth - 1)) context).run
        machine :=
    rfl
  rw [run_step, unfolded]
  exact follows_stepWith (Machine.advances_runLevels context _)
    (follows_runLevels code _) code counted inMemory

/-! ### No slip -/

/-- An end at which nothing was reached for in vain. -/
structure Steady {Result : Type} (walked : EStateM.Result (Exit Stop) Machine Result) :
    Prop where
  slip : ∀ slip after, walked ≠ .error (.slip slip) after
  breach : ∀ cause after, walked ≠ .error (.early (.breach cause)) after

theorem Follows.steady {Result : Type} {crowded : Prop}
    {walked : EStateM.Result (Exit Stop) Machine Result}
    {ended : EStateM.Result Stop Machine Result} (follows : Follows crowded walked ended)
    (intact : Intact ended) : Steady walked := by
  rcases follows with rfl | ⟨-, after, rfl⟩
  · cases ended with
    | ok result after => exact ⟨fun _ _ => nofun, fun _ _ => nofun⟩
    | error stop after =>
        refine ⟨fun _ _ => nofun, fun cause later breached => ?_⟩
        cases breached
        exact intact cause after rfl
  · exact ⟨fun _ _ => nofun, fun _ _ => nofun⟩

/-- Whatever the program, the stacks, the allowance and the context are, a machine by
position whose meter balances never slips: not in a run, nor in the runs of predicates
within it, not in a step, and not in any operation that finds the number of items that it
was promised.  It comes to what the machine comes to, unless memory gets full, and memory
does not get full where there is room for all that the gas can pay for. -/
theorem run_never_slips (context : Context) (machine : Machine)
    (code : context.program.length ≤ maxSize)
    (balanced : machine.books.meter.used + machine.books.meter.remaining =
      machine.books.meter.runLimit)
    (word : machine.books.meter.runLimit ≤ maxWord) :
    Steady ((run context).run machine) ∧
      ((run context).run machine = lifted ((Machine.run context).run machine) ∨
        ∃ after, (run context).run machine = .error .full after) ∧
      (Roomy machine →
        (run context).run machine = lifted ((Machine.run context).run machine)) ∧
      (InMemory machine →
        Steady ((step context).run machine) ∧
          ((step context).run machine = lifted ((Machine.step context).run machine) ∨
            ∃ after, (step context).run machine = .error .full after) ∧
          ∀ operation data, operation.operands ≤ machine.stack.length →
            data.length ≤ maxSize →
            Steady ((execute (run context) context data operation).run machine)) := by
  have counted : Counted machine := Nat.le_trans (Nat.le_of_eq balanced) word
  have ran := follows_run code machine counted
  refine ⟨ran.steady (Machine.intact_run context machine), ran.imp_right And.right,
    fun roomy => ran.resolve_right fun ⟨crowded, _⟩ => crowded roomy, fun inMemory => ?_⟩
  have stepped := follows_step code counted inMemory
  have intact : Intact ((Machine.step context).run machine) := by
    rw [Machine.run_step]
    exact Machine.intact_stepWith context fun callee _ _ => Machine.intact_run context callee
  refine ⟨stepped.steady intact, stepped.imp_right And.right, ?_⟩
  intro operation data enough short
  have executed := follows_execute (Machine.advances_run context) (follows_run code) code
    counted inMemory short enough
  exact executed.steady
    (Machine.intact_execute context data enough fun callee _ _ => Machine.intact_run context callee)

/-- The run that starves a predicate, by position. -/
theorem run_never_slips_of_starvedPredicate :
    let machine := Machine.start Machine.starvedPredicate 1 (.ofMeter (.flat 400) false)
    (Machine.bareContext.program.length ≤ maxSize ∧
        machine.books.meter.used + machine.books.meter.remaining =
          machine.books.meter.runLimit ∧
        machine.books.meter.runLimit ≤ maxWord ∧ Roomy machine) ∧
      ∃ after, (run Machine.bareContext).run machine = .ok .success after := by
  intro machine
  have code : Machine.bareContext.program.length ≤ maxSize := by decide
  have balanced : machine.books.meter.used + machine.books.meter.remaining =
      machine.books.meter.runLimit := by
    decide
  have word : machine.books.meter.runLimit ≤ maxWord := by decide
  have roomy : Roomy machine := ⟨by decide, by decide⟩
  refine ⟨⟨code, balanced, word, roomy⟩, ?_⟩
  have same := (run_never_slips Machine.bareContext machine code balanced word).2.2.1 roomy
  have succeeds : (Machine.outcomeOf ((Machine.run Machine.bareContext).run machine)).toOption =
      some .success := by
    decide +kernel
  rw [same]
  cases ran : (Machine.run Machine.bareContext).run machine with
  | ok halt after =>
      rw [ran] at succeeds
      cases succeeds
      exact ⟨after, rfl⟩
  | error stop after =>
      rw [ran] at succeeds
      cases succeeds

/-- An operation that was not promised its operands may slip. -/
example : Shuffle.byPosition .nip [[]] = slip .word := rfl

end EntryLedger.Positional
