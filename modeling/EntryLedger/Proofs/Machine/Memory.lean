import EntryLedger.Proofs.Machine.Boundary
import EntryLedger.Proofs.Machine.RunLimit
import EntryLedger.Proofs.Machine.Thrift

/-!
# Stack memory is paid for

The memory of a machine grows by no more than the gas that is used.  The items that a
predicate is handed are taken from its caller, so that the same holds of all machines
that are alive at one time, and all the memory of a run fits the gas that it was given.
-/

namespace EntryLedger.Machine

variable {context : Context} {machine : Machine}

/-- The memory that the items on both stacks take. -/
def memory (machine : Machine) : Nat :=
  held machine.stack + held machine.alt

/-- A later machine that has paid for what it holds more. -/
def Funds (before after : Machine) : Prop :=
  after.memory + before.books.meter.used ≤ before.memory + after.books.meter.used

theorem Funds.refl (machine : Machine) : machine.Funds machine :=
  Nat.le_refl _

theorem Funds.trans {first second third : Machine} (left : first.Funds second)
    (right : second.Funds third) : first.Funds third := by
  unfold Funds at *
  omega

/-- An action that pays for all memory that it takes, however it ends. -/
def Paying {Result : Type} (action : Run Result) : Prop :=
  ∀ machine : Machine, machine.Funds (Runs.final (action.run machine))

section Actions

variable {Result Next : Type}

theorem paying_pure (result : Result) : Paying (pure result) :=
  Funds.refl

theorem paying_throw (stop : Stop) : Paying (throw stop : Run Result) :=
  Funds.refl

theorem paying_get : Paying get :=
  Funds.refl

theorem Paying.bind {action : Run Result} {next : Result → Run Next}
    (first : Paying action) (rest : ∀ result, Paying (next result)) :
    Paying (action >>= next) :=
  Runs.related_bind .trans first rest

/-- A change that takes no memory and no gas. -/
theorem paying_modify {change : Machine → Machine}
    (memory : ∀ machine, (change machine).memory ≤ machine.memory)
    (meter : ∀ machine, (change machine).books.meter = machine.books.meter) :
    Paying (modify change) := by
  intro machine
  rw [EStateM.run_modify, Runs.final_ok, Funds, meter]
  exact Nat.add_le_add_right (memory machine) _

theorem paying_attempt (result : Except Fault Result) : Paying (attempt result) := by
  cases result with
  | error cause => exact paying_throw _
  | ok value => exact paying_pure value

theorem paying_note (event : Event) : Paying (note event) :=
  paying_modify (fun _ => Nat.le_refl _) fun _ => rfl

theorem memory_charge (amount : Nat) (machine : Machine) :
    (Runs.final ((charge amount).run machine)).memory = machine.memory := by
  obtain ⟨meter, allowance, charged⟩ := exists_run_charge amount machine
  rw [charged]
  rfl

theorem paying_charge (amount : Nat) : Paying (charge amount) := by
  intro machine
  rw [Funds, memory_charge]
  exact Nat.add_le_add_left (precedes_charge amount machine).books.used _

/-- What a pushed item costs is what it takes. -/
theorem paying_push (item : Bytes) : Paying (push item) := by
  intro machine
  have paying := paying_charge (itemCost + item.length) machine
  rw [push, EStateM.run_bind]
  cases charged : (charge (itemCost + item.length)).run machine with
  | error stop after =>
      rw [charged] at paying
      exact paying
  | ok result after =>
      obtain ⟨-, rfl⟩ := charge_eq_ok charged
      simp only [EStateM.run_modify, Runs.final_ok, Funds, memory, held_cons, paid, itemCost]
      omega

theorem paying_pushAll (items : List Bytes) : Paying (pushAll items) := by
  induction items with
  | nil => exact paying_pure ()
  | cons item items ih => exact (paying_push item).bind fun _ => ih

/-- A thrifty effect has paid by its toll for what it leaves. -/
theorem funds_settle {effect : StackEffect} (thrifty : effect.Thrifty machine.stack) :
    machine.Funds (Runs.final ((settle effect).run machine)) := by
  have query : Paying (noteQuery effect.query) := by
    cases effect.query with
    | none => exact paying_pure ()
    | some query => exact paying_note _
  have delivery : Paying (deliver effect.outcome) := by
    cases effect.outcome with
    | ok items => exact paying_pushAll items
    | error stop => exact paying_throw stop
  have rest := query.bind fun _ => delivery
  rw [settle_eq, EStateM.run_bind]
  unfold StackEffect.Thrifty at thrifty
  cases toll : effect.toll with
  | none =>
      rw [toll, Option.getD_none, Nat.add_zero] at thrifty
      refine Funds.trans ?_ (rest { machine with stack := effect.stack })
      exact Nat.add_le_add_right (Nat.add_le_add_right thrifty _) _
  | some toll' =>
      rw [toll, Option.getD_some] at thrifty
      have paying := paying_charge toll' machine
      simp only [payToll]
      cases charged : (charge toll').run machine with
      | error stop after =>
          rw [charged] at paying
          exact paying
      | ok result after =>
          refine Funds.trans ?_ (rest { after with stack := effect.stack })
          obtain ⟨-, rfl⟩ := charge_eq_ok charged
          simp only [Funds, memory, paid]
          omega

theorem paying_affect {effect : List Bytes → StackEffect}
    (thrifty : ∀ stack, (effect stack).Thrifty stack) : Paying (affect effect) := by
  intro machine
  have settled := funds_settle (thrifty machine.stack)
  rw [affect, EStateM.run_bind, EStateM.run_get]
  simp only
  rw [EStateM.run_bind]
  cases ran : (settle (effect machine.stack)).run machine with
  | ok result after =>
      rw [ran] at settled
      exact settled
  | error stop after =>
      rw [ran] at settled
      exact settled

theorem paying_pop : Paying pop := by
  intro machine
  rw [pop, EStateM.run_bind, EStateM.run_get]
  simp only
  cases stacked : machine.stack with
  | nil => exact .refl machine
  | cons item below =>
      have popped : (setStack below >>= fun _ => pure item).run machine =
          .ok item { machine with stack := below } :=
        rfl
      simp only [popped, Runs.final_ok, Funds, memory, stacked, held_cons]
      omega

theorem paying_resume (verdict : Except Stop Bool) : Paying (resume verdict) := by
  cases verdict with
  | ok succeeded => exact paying_push _
  | error stop => exact paying_throw stop

end Actions

section Steps

variable {nested : Run Halt} (advances : Advances nested)
include advances

/-- The operands and the items that are handed over leave the caller. -/
theorem paying_checkPredicate : Paying (checkPredicate nested) := by
  intro machine
  rw [run_checkPredicate]
  split
  · exact .refl machine
  · cases read : Call.ofStack machine.stack with
    | error stop => exact .refl machine
    | ok call =>
        refine Funds.trans ?_ (paying_resume _ _)
        obtain ⟨limitItem, countItem, stacked, -⟩ := Call.ofStack_eq_ok read
        have used : machine.books.meter.used ≤
            (Runs.final (nested.run (call.machine machine))).books.meter.used :=
          (advances (call.machine machine)).books.used
        simp only [Funds, memory, Call.caller, stacked, held_cons, held_append]
        omega

theorem paying_execute (context : Context) (data : Bytes) (operation : Operation) :
    Paying (execute nested context data operation) := by
  cases operation with
  | nop => exact paying_pure _
  | fail => exact paying_pure _
  | jump => exact (paying_attempt _).bind fun _ => paying_pure _
  | jumpIf =>
      refine (paying_attempt _).bind fun target => paying_pop.bind fun condition => ?_
      split
      · exact paying_pure _
      · exact paying_pure _
  | verify =>
      refine paying_pop.bind fun condition => ?_
      split
      · exact paying_pure _
      · exact paying_throw _
  | toAlt =>
      -- The item leaves one stack for the other, so that both actions count together.
      intro machine
      simp only [execute, pop, bind_assoc, EStateM.run_bind, EStateM.run_get]
      cases stacked : machine.stack with
      | nil => exact .refl machine
      | cons item below =>
          have moved : (setStack below >>= fun _ => pure item).run machine =
              .ok item { machine with stack := below } :=
            rfl
          simp only [moved, EStateM.run_modify, EStateM.run_pure, Runs.final_ok, Funds,
            memory, stacked, held_cons]
          omega
  | fromAlt =>
      intro machine
      simp only [execute, EStateM.run_bind, EStateM.run_get]
      cases stacked : machine.alt with
      | nil => exact .refl machine
      | cons item rest =>
          simp only [EStateM.run_bind, EStateM.run_set, EStateM.run_pure, Runs.final_ok,
            Funds, memory, stacked, held_cons]
          omega
  | checkPredicate => exact (paying_checkPredicate advances).bind fun _ => paying_pure _
  | push => exact (paying_push data).bind fun _ => paying_pure _
  | shuffle shuffle => exact paying_affect shuffle.thrifty_effect
  | splice splice => exact paying_affect splice.thrifty_effect
  | bitwise bitwise => exact paying_affect bitwise.thrifty_effect
  | numeric numeric => exact paying_affect numeric.thrifty_effect
  | attest attest => exact paying_affect (attest.thrifty_effect context.verifySignature)
  | observe observe => exact paying_affect (observe.thrifty_effect context)

theorem paying_stepWith (context : Context) : Paying (stepWith nested context) := by
  have recording (opcode : Opcode) (gasBefore : Nat) : Paying (record opcode gasBefore) := by
    refine paying_get.bind fun machine => ?_
    split
    · exact paying_note _
    · exact paying_pure _
  have proceeding (following : Nat) (next : Next) : Paying (proceed following next) := by
    cases next with
    | halt => exact paying_pure _
    | target position =>
        exact Paying.bind (paying_modify (fun _ => Nat.le_refl _) fun _ => rfl) fun _ =>
          paying_pure none
    | following =>
        exact Paying.bind (paying_modify (fun _ => Nat.le_refl _) fun _ => rfl) fun _ =>
          paying_pure none
  have counting : Paying countStart :=
    paying_modify (fun _ => Nat.le_refl _) fun _ => rfl
  rw [stepWith_eq]
  refine paying_get.bind fun machine => Paying.bind ?_ fun performed =>
    (recording _ _).bind fun _ => proceeding _ performed.2
  exact (paying_attempt _).bind fun fetched => (paying_charge _).bind fun _ =>
    (paying_attempt _).bind fun _ => counting.bind fun _ =>
      (paying_execute advances context _ _).bind fun _ => paying_pure _

end Steps

theorem paying_step (context : Context) : Paying (step context) := by
  intro machine
  rw [run_step]
  exact paying_stepWith (advances_run context) context machine

theorem Reaches.funds {later : Machine} (reached : Reaches context machine later) :
    machine.Funds later :=
  reached.related Funds.refl .trans (paying_step context)

/-! ### Machines that are alive together -/

/-- The caller of a nested run that has not ended: it holds what it has not handed
over. -/
def Call.waiting (call : Call) (caller : Machine) : Machine :=
  { caller with stack := call.rest }

/-- The machines that are alive at one time in a run, between two instructions of the
first of them.  Each of the others waits for the one before it. -/
inductive Alive (context : Context) (machine : Machine) : List Machine → Prop
  | alone {current : Machine} (reached : Reaches context machine current) :
      Alive context machine [current]
  | nested {current caller later : Machine} {call : Call} {callers : List Machine}
      (alive : Alive context machine (current :: callers))
      (calls : Calls current call caller)
      (reached : Reaches context (call.machine caller) later) :
      Alive context machine (later :: call.waiting caller :: callers)

/-- Machines that are alive after the first step are alive in the run. -/
theorem Alive.of_step {after : Machine} {machines : List Machine}
    (running : machine.position < machine.tape.length)
    (stepped : (step context).run machine = .ok none after)
    (alive : Alive context after machines) : Alive context machine machines := by
  induction alive with
  | alone reached => exact .alone (reached.of_step running stepped)
  | nested _ calls reached ih => exact .nested ih calls reached

/-- While a nested run has machines alive, its caller waits behind them. -/
theorem Alive.of_call {call : Call} {caller : Machine} {machines : List Machine}
    (calls : Calls machine call caller) (alive : Alive context (call.machine caller) machines) :
    Alive context machine (machines ++ [call.waiting caller]) := by
  induction alive with
  | alone reached => exact .nested (.alone .start) calls reached
  | nested _ calls reached ih => exact .nested ih calls reached

/-- The memory of several machines. -/
def totalMemory : List Machine → Nat
  | [] => 0
  | machine :: machines => machine.memory + totalMemory machines

@[simp]
theorem totalMemory_cons (machine : Machine) (machines : List Machine) :
    totalMemory (machine :: machines) = machine.memory + totalMemory machines :=
  rfl

/-- Handing items to a predicate counts nothing twice. -/
theorem memory_machine_add_waiting_le {call : Call} {caller : Machine}
    (calls : Calls machine call caller) :
    (call.machine caller).memory + (call.waiting caller).memory ≤ machine.memory ∧
      machine.books.meter.used ≤ (call.machine caller).books.meter.used := by
  have same := calls.caller_eq
  obtain ⟨limitItem, countItem, stacked, -⟩ := Call.ofStack_eq_ok calls.read
  subst same
  simp only [Call.machine, Call.waiting, memory, paid, stacked, held_cons, held_append,
    held_nil]
  omega

theorem Alive.funds {current : Machine} {callers : List Machine}
    (alive : Alive context machine (current :: callers)) :
    current.memory + totalMemory callers + machine.books.meter.used ≤
      machine.memory + current.books.meter.used := by
  generalize machines : current :: callers = chain at alive
  induction alive generalizing current callers with
  | alone reached =>
      cases machines
      exact reached.funds
  | nested _ calls reached ih =>
      cases machines
      have below := ih rfl
      have begun := memory_machine_add_waiting_le calls
      have onward : _ + _ ≤ _ + _ := reached.funds
      simp only [totalMemory_cons]
      omega

/-- The first of the machines may also be left by an instruction that fails. -/
theorem Alive.funds_step {current : Machine} {callers : List Machine}
    (alive : Alive context machine (current :: callers)) :
    (Runs.final ((step context).run current)).memory + totalMemory callers +
        machine.books.meter.used ≤
      machine.memory + (Runs.final ((step context).run current)).books.meter.used := by
  have before := alive.funds
  have stepped : _ + _ ≤ _ + _ := paying_step context current
  omega

/-- Gas only moves from what remains to what is used, for all machines that are
alive. -/
theorem Alive.precedes {current : Machine} {callers : List Machine}
    (alive : Alive context machine (current :: callers)) :
    machine.books.Precedes current.books := by
  generalize machines : current :: callers = chain at alive
  induction alive generalizing current callers with
  | alone reached =>
      cases machines
      exact reached.precedes.books
  | @nested current caller _ call _ _ calls reached ih =>
      cases machines
      have paying := precedes_charge Operation.checkPredicate.cost current
      obtain ⟨-, paid, -, -, -⟩ := calls
      rw [paid] at paying
      have begun : current.books.Precedes (call.machine _).books :=
        (paying.trans (advances_countStart _)).books.trans (.note _ _)
      exact (ih rfl).trans (begun.trans reached.precedes.books)

/-! ### The programs of a transaction -/

/-- The books of a transaction after some programs that share them. -/
inductive Serves (opening : Books) : Books → Prop
  | opening : Serves opening opening
  | program {books : Books} (served : Serves opening books) (context : Context)
      (program : Program) (arguments : List Bytes) :
      Serves opening (Runs.final ((authorise context program arguments).run books))

theorem Serves.precedes {opening books : Books} (serves : Serves opening books) :
    opening.Precedes books := by
  induction serves with
  | opening => exact .refl opening
  | program _ context program arguments ih =>
      exact ih.trans (precedes_authorise context program arguments _)

/-- The memory of a machine grows by no more than the gas that is used, at every
boundary of its run and in the state that any step, failing or not, leaves there.  The
same holds of all machines that are alive at one time.  So whatever programs have run
before on the books of a transaction, the arguments of the next one and all machines of
its run take no more memory than the transaction has gas. -/
theorem memory_paid_by_gas (context : Context) :
    (∀ machine later, Reaches context machine later →
      held later.stack + held later.alt + machine.books.meter.used ≤
          held machine.stack + held machine.alt + later.books.meter.used ∧
        let after := Runs.final ((step context).run later)
        held after.stack + held after.alt + machine.books.meter.used ≤
          held machine.stack + held machine.alt + after.books.meter.used) ∧
      (∀ machine current callers, Alive context machine (current :: callers) →
        totalMemory (current :: callers) + machine.books.meter.used ≤
          machine.memory + current.books.meter.used) ∧
      ∀ opening books, Serves opening books → ∀ code version arguments,
        let runLimit := opening.meter.used + opening.meter.remaining
        let pushed := (pushAll arguments).run (start code version books)
        (Runs.final pushed).memory ≤ runLimit ∧
          ∀ current callers, Alive context (Runs.final pushed) (current :: callers) →
            totalMemory (current :: callers) ≤ runLimit ∧
              totalMemory (Runs.final ((step context).run current) :: callers) ≤
                runLimit := by
  refine ⟨fun machine later reached => ⟨reached.funds, ?_⟩, fun _ _ _ alive => ?_, ?_⟩
  · exact reached.funds.trans (paying_step context later)
  · rw [totalMemory_cons]
    exact alive.funds
  · intro opening books serves code version arguments
    -- The machine of a program begins with no items at all.
    have empty : (start code version books).memory = 0 := rfl
    have funds : _ + _ ≤ _ + _ := paying_pushAll arguments (start code version books)
    have course := serves.precedes.trans ((Books.Precedes.note books (.entered 0)).trans
      (advances_pushAll arguments (start code version books)).books)
    have total := course.total
    have used : (start code version books).books.meter = books.meter := rfl
    refine ⟨by omega, fun current callers alive => ?_⟩
    have living := alive.funds
    have stepped := alive.funds_step
    have onward := alive.precedes.total
    have after := (related_step (fun _ _ => Moves.precedes) context current).books.total
    simp only [totalMemory_cons]
    constructor
    · omega
    · omega

end EntryLedger.Machine
