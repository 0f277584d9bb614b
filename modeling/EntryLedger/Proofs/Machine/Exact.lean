import EntryLedger.Proofs.Machine.Allowance
import EntryLedger.Proofs.Machine.Thrift

/-!
# Steps with a known need of gas

What an operation does to the data stack is told without regard to gas.  Most operations
take an amount of gas that their effect tells: such a step either finds the deadline passed,
or is refused gas, of which there is less than that amount, or takes exactly that amount and
ends as told.
-/

namespace EntryLedger

namespace StackEffect

/-- The gas that an effect takes. -/
def gas (effect : StackEffect) : Nat :=
  effect.toll.getD 0 + held (effect.outcome.toOption.getD [])

/-- The stack once an effect is carried out. -/
def result (effect : StackEffect) : List Bytes :=
  (effect.outcome.toOption.getD []).reverse ++ effect.stack

end StackEffect

namespace Machine

/-- The gas that a machine may still use. -/
def credit (machine : Machine) : Nat :=
  machine.allowance.elim machine.books.meter.remaining (min machine.books.meter.remaining)

theorem credit_le_remaining (machine : Machine) :
    machine.credit ≤ machine.books.meter.remaining := by
  unfold credit
  cases machine.allowance with
  | none => exact Nat.le_refl _
  | some own => exact Nat.min_le_left _ _

theorem credit_le_of_granted {machine : Machine} {own : Nat}
    (granted : machine.allowance = some own) : machine.credit ≤ own := by
  rw [credit, granted]
  exact Nat.min_le_right _ _

/-- A machine at another place of its program, with other items and other accounts. -/
def arranged (machine : Machine) (position : Nat) (stack : List Bytes) (books : Books)
    (allowance : Option Nat) : Machine :=
  { machine with position := position, stack := stack, books := books, allowance := allowance }

/-- The end of an action, in some state. -/
def ending {Result : Type} (outcome : Except Stop Result) (machine : Machine) :
    EStateM.Result Stop Machine Result :=
  match outcome with
  | .ok result => .ok result machine
  | .error stop => .error stop machine

theorem allow_eq_ok {machine : Machine} {instruction : Instruction} {operation : Operation}
    (enough : operation.operands ≤ machine.stack.length)
    (short : machine.position + instruction.length < 0x100000000) :
    machine.allow instruction operation = .ok () := by
  have served : ¬ lacks machine.stack operation.operands = true := by
    rw [lacks_iff]
    omega
  rw [allow, if_neg served, if_neg (Nat.not_le_of_lt short)]

/-- A later machine of whose accounts no more has changed than the gas that is left. -/
structure Steady (before after : Machine) : Prop where
  expired : after.books.meter.expired = before.books.meter.expired
  exhausted : after.books.meter.exhausted = before.books.meter.exhausted
  traced : after.books.traced = before.books.traced
  limited : after.allowance.isSome = before.allowance.isSome

theorem Steady.trans {first second third : Machine} (left : first.Steady second)
    (right : second.Steady third) : first.Steady third where
  expired := right.expired.trans left.expired
  exhausted := right.exhausted.trans left.exhausted
  traced := right.traced.trans left.traced
  limited := right.limited.trans left.limited

/-- An action either finds the deadline passed, or is refused gas, and then the machine may
use less than the action needs, or it takes exactly that much and ends as told. -/
inductive Takes {Result : Type} (gas : Nat) (action : Run Result) (machine : Machine)
    (outcome : Except Stop Result) (position : Nat) (stack : List Bytes) : Prop
  | late {after : Machine} (expired : machine.books.meter.expired = true)
      (ran : action.run machine = .error (.fault .deadlineExceeded) after)
  | refused {after : Machine} (poor : machine.credit < gas)
      (ran : action.run machine = .error (.fault .runLimitExceeded) after)
  | met (books : Books) (allowance : Option Nat)
      (ran : action.run machine =
        ending outcome (machine.arranged position stack books allowance))
      (steady : machine.Steady (machine.arranged position stack books allowance))
      (spends : Spends gas machine (machine.arranged position stack books allowance))
      (left : (machine.arranged position stack books allowance).credit + gas = machine.credit)

namespace Takes

variable {Result Next : Type} {machine : Machine} {gas more position later : Nat}
  {stack below : List Bytes} {action : Run Result} {next : Result → Run Next}

theorem congr {action' : Run Result} {outcome : Except Stop Result}
    (takes : Takes gas action machine outcome position stack)
    (same : action'.run machine = action.run machine) :
    Takes gas action' machine outcome position stack := by
  cases takes with
  | late expired ran => exact .late expired (same.trans ran)
  | refused poor ran => exact .refused poor (same.trans ran)
  | met books allowance ran steady spends left =>
      exact .met books allowance (same.trans ran) steady spends left

/-- With enough gas an action ends as told, unless it finds the deadline passed. -/
theorem ends {outcome : Except Stop Result}
    (takes : Takes gas action machine outcome position stack) (enough : gas ≤ machine.credit) :
    (machine.books.meter.expired = true ∧
        ∃ after, action.run machine = .error (.fault .deadlineExceeded) after) ∨
      ∃ books allowance,
        action.run machine = ending outcome (machine.arranged position stack books allowance) ∧
          Spends gas machine (machine.arranged position stack books allowance) := by
  cases takes with
  | late expired ran => exact .inl ⟨expired, _, ran⟩
  | refused poor ran => exact absurd enough (Nat.not_le_of_lt poor)
  | met books allowance ran steady spends left => exact .inr ⟨books, allowance, ran, spends⟩

/-- An action that leaves the meter and the allowance alone takes no gas. -/
theorem of_run {outcome : Except Stop Result} (books : Books)
    (ran : action.run machine =
      ending outcome (machine.arranged position stack books machine.allowance))
    (meter : books.meter = machine.books.meter) (traced : books.traced = machine.books.traced) :
    Takes 0 action machine outcome position stack := by
  refine .met books machine.allowance ran {
    expired := congrArg Meter.expired meter
    exhausted := congrArg Meter.exhausted meter
    traced := traced
    limited := rfl } (.none_of_eq (congrArg Meter.used meter) rfl) ?_
  simp only [credit, arranged, meter, Nat.add_zero]

theorem pure (result : Result) :
    Takes 0 (pure result) machine (.ok result) machine.position machine.stack :=
  of_run machine.books rfl rfl rfl

theorem throw (stop : Stop) :
    Takes 0 (throw stop : Run Result) machine (.error stop) machine.position machine.stack :=
  of_run machine.books rfl rfl rfl

/-- Actions in a chain take the gas of both. -/
theorem bind {result : Result} {outcome : Except Stop Next}
    (first : Takes gas action machine (.ok result) position stack)
    (rest : ∀ books allowance,
      Takes more (next result) (machine.arranged position stack books allowance) outcome
        later below) :
    Takes (gas + more) (action >>= next) machine outcome later below := by
  cases first with
  | late expired ran => exact .late expired (by rw [EStateM.run_bind, ran])
  | refused poor ran => exact .refused (by omega) (by rw [EStateM.run_bind, ran])
  | met books allowance ran steady spends left =>
      have continued : (action >>= next).run machine =
          (next result).run (machine.arranged position stack books allowance) := by
        rw [EStateM.run_bind, ran]
        rfl
      cases rest books allowance with
      | late expired ran' =>
          exact .late (steady.expired.symm.trans expired) (continued.trans ran')
      | refused poor ran' => exact .refused (by omega) (continued.trans ran')
      | met books' allowance' ran' steady' spends' left' =>
          refine .met books' allowance' (continued.trans ran') (steady.trans steady')
            (spends.trans spends') ?_
          rw [Nat.add_comm gas, ← Nat.add_assoc]
          exact (congrArg (· + gas) left').trans left

/-- A chain ends with its first action if that stops. -/
theorem bind_error {stop : Stop}
    (first : Takes gas action machine (.error stop) position stack) :
    Takes gas (action >>= next) machine (.error stop) position stack := by
  cases first with
  | late expired ran => exact .late expired (by rw [EStateM.run_bind, ran])
  | refused poor ran => exact .refused poor (by rw [EStateM.run_bind, ran])
  | met books allowance ran steady spends left =>
      exact .met books allowance (by rw [EStateM.run_bind, ran]; rfl) steady spends left

/-- An action that takes no gas may come first. -/
theorem free_bind {result : Result} {outcome : Except Stop Next}
    (first : Takes 0 action machine (.ok result) position stack)
    (rest : ∀ books allowance,
      Takes gas (next result) (machine.arranged position stack books allowance) outcome
        later below) :
    Takes gas (action >>= next) machine outcome later below := by
  rw [← Nat.zero_add gas]
  exact first.bind rest

/-- An action that takes no gas may come last. -/
theorem bind_free {result : Result} {outcome : Except Stop Next}
    (first : Takes gas action machine (.ok result) position stack)
    (rest : ∀ books allowance,
      Takes 0 (next result) (machine.arranged position stack books allowance) outcome
        later below) :
    Takes gas (action >>= next) machine outcome later below :=
  first.bind rest

/-! ### Actions -/

theorem charge (amount : Nat) :
    Takes amount (charge amount) machine (.ok ()) machine.position machine.stack := by
  cases charged : (Machine.charge amount).run machine with
  | ok result after =>
      have spends := Spends.charge charged
      obtain ⟨afforded, rfl⟩ := charge_eq_ok charged
      refine .met _ _ charged {
        expired := rfl
        exhausted := rfl
        traced := rfl
        limited := Option.isSome_map } spends ?_
      cases granted : machine.allowance with
      | none =>
          simp only [credit, arranged, granted, Option.map_none, Option.elim_none, paid]
          omega
      | some own =>
          have within := spends.enough own granted
          simp only [credit, arranged, granted, Option.map_some, Option.elim_some, paid]
          omega
  | error stop after =>
      rcases charge_eq_error charged with
        ⟨rfl, expired⟩ | ⟨rfl, ⟨own, granted, less⟩ | ⟨poor, -⟩⟩
      · exact .late expired charged
      · exact .refused (Nat.lt_of_le_of_lt (credit_le_of_granted granted) less) charged
      · exact .refused (Nat.lt_of_le_of_lt (credit_le_remaining machine) poor) charged

theorem note (event : Event) :
    Takes 0 (note event) machine (.ok ()) machine.position machine.stack :=
  of_run { machine.books with journal := event :: machine.books.journal } rfl rfl rfl

theorem countStart :
    Takes 0 countStart machine (.ok ()) machine.position machine.stack :=
  of_run { machine.books with started := machine.books.started + 1 } rfl rfl rfl

theorem setStack (stack : List Bytes) :
    Takes 0 (setStack stack) machine (.ok ()) machine.position stack :=
  of_run machine.books rfl rfl rfl

theorem push (item : Bytes) :
    Takes (8 + item.length) (push item) machine (.ok ()) machine.position
      (item :: machine.stack) :=
  (charge _).bind_free fun books _ => of_run books rfl rfl rfl

theorem pushAll (items : List Bytes) :
    Takes (held items) (pushAll items) machine (.ok ()) machine.position
      (items.reverse ++ machine.stack) := by
  induction items generalizing machine with
  | nil => exact pure ()
  | cons item items ih =>
      rw [held_cons, List.reverse_cons, List.append_assoc, List.singleton_append]
      exact (push item).bind fun _ _ => ih

theorem settle (effect : StackEffect) :
    Takes effect.gas (settle effect) machine (effect.outcome.map fun _ => ())
      machine.position effect.result := by
  have toll : Takes (effect.toll.getD 0) (payToll effect.toll) machine (.ok ())
      machine.position machine.stack := by
    cases effect.toll with
    | none => exact pure ()
    | some toll => exact charge toll
  have query (machine : Machine) : Takes 0 (noteQuery effect.query) machine (.ok ())
      machine.position machine.stack := by
    cases effect.query with
    | none => exact pure ()
    | some query => exact note _
  have delivery (machine : Machine) (left : machine.stack = effect.stack) :
      Takes (held (effect.outcome.toOption.getD [])) (deliver effect.outcome) machine
        (effect.outcome.map fun _ => ()) machine.position effect.result := by
    unfold StackEffect.result
    rw [← left]
    cases effect.outcome with
    | ok items => exact pushAll items
    | error stop => exact throw stop
  rw [settle_eq]
  refine toll.bind fun _ _ => ?_
  refine (setStack effect.stack).free_bind fun _ _ => ?_
  exact (query _).free_bind fun _ _ => delivery _ rfl

theorem affect (effect : List Bytes → StackEffect) :
    Takes (effect machine.stack).gas (affect effect) machine
      ((effect machine.stack).outcome.map fun _ => .following) machine.position
      (effect machine.stack).result := by
  have settled : Takes _ _ machine _ _ _ := settle (effect machine.stack)
  have unfolded : (Machine.affect effect).run machine =
      (Machine.settle (effect machine.stack) >>= fun _ => Pure.pure Next.following).run
        machine :=
    rfl
  cases outcome : (effect machine.stack).outcome with
  | ok items =>
      rw [outcome] at settled
      exact (settled.bind_free fun _ _ => pure Next.following).congr unfolded
  | error stop =>
      rw [outcome] at settled
      exact settled.bind_error.congr unfolded

/-! ### Steps -/

variable {nested : Run Halt} {context : Context} {instruction : Instruction}
  {operation : Operation}

theorem record (opcode : Opcode) (gasBefore : Nat) :
    Takes 0 (record opcode gasBefore) machine (.ok ()) machine.position machine.stack := by
  have unfolded : (Machine.record opcode gasBefore).run machine =
      (if machine.books.traced then
        Machine.note (.finished {
          depth := machine.depth
          position := machine.position
          opcode := opcode
          gasBefore := gasBefore
          gasAfter := machine.books.meter.remaining
          stack := machine.stack })
      else Pure.pure ()).run machine :=
    rfl
  cases traced : machine.books.traced with
  | true =>
      rw [traced] at unfolded
      exact (note _).congr unfolded
  | false =>
      rw [traced] at unfolded
      exact (pure ()).congr unfolded

/-- An instruction that was carried out takes a machine past it. -/
theorem conclude (before : Machine) (instruction : Instruction) :
    Takes 0 (conclude before (instruction, .following)) machine (.ok none)
      (before.position + instruction.length) machine.stack :=
  (record _ _).bind_free fun books _ => of_run books rfl rfl rfl

/-- An instruction without its operands is paid for and not carried out. -/
theorem stepWith_lacking (fetched : machine.fetch = .ok (instruction, operation))
    (lacking : machine.stack.length < operation.operands) :
    Takes operation.cost (Machine.stepWith nested context) machine
      (.error (.fault .dataStackUnderflow)) machine.position machine.stack := by
  have unfolded : (Machine.stepWith nested context).run machine =
      (Machine.charge operation.cost >>= fun _ =>
        (Machine.carryOut nested context machine (instruction, operation) >>=
          Machine.conclude machine)).run machine := by
    rw [stepWith_eq, EStateM.run_bind, EStateM.run_get]
    simp only [Machine.perform, fetched, attempt, pure_bind, bind_assoc]
  have refused : machine.allow instruction operation = .error .dataStackUnderflow := by
    rw [allow, if_pos (lacks_iff.mpr lacking)]
  refine congr ((charge operation.cost).bind_free fun _ _ => ?_) unfolded
  refine bind_error ?_
  simp only [carryOut, refused, attempt]
  exact bind_error (throw _)

/-- A step of an operation that goes on to the following instruction. -/
theorem stepWith_following (fetched : machine.fetch = .ok (instruction, operation))
    (allowed : machine.allow instruction operation = .ok ())
    (executed : ∀ books allowance,
      Takes gas (execute nested context instruction.data operation)
        (machine.arranged machine.position machine.stack books allowance) (.ok .following)
        position stack) :
    Takes (operation.cost + gas) (Machine.stepWith nested context) machine (.ok none)
      (machine.position + instruction.length) stack := by
  refine congr ?_ (run_stepWith_of_allowed fetched allowed)
  refine (charge operation.cost).bind fun _ _ => countStart.free_bind fun books allowance => ?_
  exact (executed books allowance).bind_free fun _ _ => conclude machine instruction

/-- A step of a push. -/
theorem stepWith_push (fetched : machine.fetch = .ok (instruction, .push))
    (room : machine.position + instruction.length < 0x100000000) :
    Takes (9 + instruction.data.length) (Machine.stepWith nested context) machine (.ok none)
      (machine.position + instruction.length) (instruction.data :: machine.stack) := by
  have pushed (books : Books) (allowance : Option Nat) :
      Takes (8 + instruction.data.length) (execute nested context instruction.data .push)
        (machine.arranged machine.position machine.stack books allowance) (.ok .following)
        machine.position (instruction.data :: machine.stack) :=
    (push instruction.data).bind_free fun _ _ => pure Next.following
  have step := stepWith_following fetched (allow_eq_ok (Nat.zero_le _) room) pushed
  have cost : Operation.push.cost + (8 + instruction.data.length) =
      9 + instruction.data.length := by
    rw [← Nat.add_assoc]
    rfl
  rwa [cost] at step

section Affect

variable {effect : List Bytes → StackEffect} {left : StackEffect}
  (executes : execute nested context instruction.data operation = Machine.affect effect)
  (effective : effect machine.stack = left)
include executes effective

/-- An operation that only affects the data stack. -/
theorem execute_affect (books : Books) (allowance : Option Nat) :
    Takes left.gas (execute nested context instruction.data operation)
      (machine.arranged machine.position machine.stack books allowance)
      (left.outcome.map fun _ => .following) machine.position left.result := by
  have affected : Takes _ _ (machine.arranged machine.position machine.stack books allowance)
    _ _ _ := affect effect
  rw [executes, ← effective]
  exact affected

variable (fetched : machine.fetch = .ok (instruction, operation))
  (allowed : machine.allow instruction operation = .ok ())
include fetched allowed

/-- A step of an operation that only affects the data stack. -/
theorem stepWith_affect {items : List Bytes} (delivers : left.outcome = .ok items) :
    Takes (operation.cost + left.gas) (Machine.stepWith nested context) machine (.ok none)
      (machine.position + instruction.length) left.result := by
  apply stepWith_following fetched allowed
  intro books allowance
  have executed := execute_affect executes effective books allowance
  rwa [delivers] at executed

theorem stepWith_affect_error {stop : Stop} (stops : left.outcome = .error stop) :
    Takes (operation.cost + left.gas) (Machine.stepWith nested context) machine (.error stop)
      machine.position left.result := by
  refine congr ?_ (run_stepWith_of_allowed fetched allowed)
  refine (charge operation.cost).bind fun _ _ => countStart.free_bind fun books allowance => ?_
  have executed := execute_affect executes effective books allowance
  rw [stops] at executed
  exact executed.bind_error

end Affect

end Takes

/-! ### Steps with enough gas -/

/-- With enough gas, a step either finds the deadline passed or ends as told. -/
theorem Takes.ends_step {context : Context} {machine : Machine} {gas position : Nat}
    {stack : List Bytes}
    (takes : Takes gas (stepWith (run context) context) machine (.ok none) position stack)
    (enough : gas ≤ machine.credit) :
    (machine.books.meter.expired = true ∧
        ∃ after, (step context).run machine = .error (.fault .deadlineExceeded) after) ∨
      ∃ after, (step context).run machine = .ok none after ∧ after.stack = stack ∧
        after.alt = machine.alt ∧ after.position = position ∧ Spends gas machine after := by
  rw [run_step]
  refine (takes.ends enough).imp_right ?_
  rintro ⟨books, allowance, ran, spends⟩
  exact ⟨_, ran, rfl, rfl, rfl, spends⟩

section Ends

variable {context : Context} {machine : Machine} {instruction : Instruction}
  {operation : Operation} {effect : List Bytes → StackEffect} {left : StackEffect}
  (executes : execute (run context) context instruction.data operation = affect effect)
  (effective : effect machine.stack = left)
  (fetched : machine.fetch = .ok (instruction, operation))
  (allowed : machine.allow instruction operation = .ok ())
  (enough : operation.cost + left.gas ≤ machine.credit)
include executes effective fetched allowed enough

/-- With enough gas, a step that only affects the data stack either finds the deadline passed or
does what its effect tells. -/
theorem ends_of_affect {items : List Bytes} (delivers : left.outcome = .ok items) :
    (machine.books.meter.expired = true ∧
        ∃ after, (step context).run machine = .error (.fault .deadlineExceeded) after) ∨
      ∃ after, (step context).run machine = .ok none after ∧ after.stack = left.result ∧
        after.alt = machine.alt ∧ after.position = machine.position + instruction.length ∧
        Spends (operation.cost + left.gas) machine after :=
  (Takes.stepWith_affect executes effective fetched allowed delivers).ends_step enough

theorem ends_of_affect_error {stop : Stop} (stops : left.outcome = .error stop) :
    (machine.books.meter.expired = true ∧
        ∃ after, (step context).run machine = .error (.fault .deadlineExceeded) after) ∨
      ∃ after, (step context).run machine = .error stop after ∧ after.stack = left.result ∧
        after.alt = machine.alt ∧ Spends (operation.cost + left.gas) machine after := by
  rw [run_step]
  have takes := Takes.stepWith_affect_error executes effective fetched allowed stops
  refine (takes.ends enough).imp_right ?_
  rintro ⟨books, allowance, ran, spends⟩
  exact ⟨_, ran, rfl, rfl, spends⟩

end Ends

end Machine

end EntryLedger
