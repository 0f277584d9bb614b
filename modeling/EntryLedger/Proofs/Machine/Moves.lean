import EntryLedger.Proofs.Machine.Step

/-!
# The moves of a machine

Whatever program a machine runs, it makes only a few kinds of moves: it arranges
its stacks and its position, it pays, it notes, it begins an instruction that was
paid for, and it has a nested machine run.  All operations are gone through here
once.  A relation between machines that every move respects then holds between
the start and the end of every run.
-/

namespace EntryLedger.Machine

/-- What a machine can come to.  About nested runs nothing is said but what
`inner` says. -/
inductive Moves (inner : Machine → Machine → Prop) : Machine → Machine → Prop
  | refl (machine : Machine) : Moves inner machine machine
  | trans {first second third : Machine} (left : Moves inner first second)
      (right : Moves inner second third) : Moves inner first third
  | arrange (stack alt : List Bytes) (position : Nat) (machine : Machine) :
      Moves inner machine { machine with stack := stack, alt := alt, position := position }
  | charge (amount : Nat) (machine : Machine) :
      Moves inner machine (Runs.final ((Machine.charge amount).run machine))
  | note (event : Event) (silent : ∀ depth, event ≠ .entered depth) (machine : Machine) :
      Moves inner machine { machine with books.journal := event :: machine.books.journal }
  | begin {cost : Nat} {machine charged : Machine} (positive : 0 < cost)
      (charge : (Machine.charge cost).run machine = .ok () charged) :
      Moves inner machine { charged with books.started := charged.books.started + 1 }
  | call {call : Call} {machine ended : Machine} (shallow : machine.depth < maxDepth)
      (read : Call.ofStack machine.stack = .ok call)
      (nested : inner (call.machine machine) ended) :
      Moves inner machine (call.caller machine ended.books)

/-- No move changes the program of a machine or the version whose rules apply to it. -/
theorem Moves.fixed {inner : Machine → Machine → Prop} {before after : Machine}
    (moves : Moves inner before after) :
    after.tape = before.tape ∧ after.version = before.version := by
  induction moves with
  | refl | arrange | note | call => exact ⟨rfl, rfl⟩
  | trans _ _ left right => exact ⟨right.1.trans left.1, right.2.trans left.2⟩
  | charge amount machine =>
      obtain ⟨meter, allowance, charged⟩ := exists_run_charge amount machine
      rw [charged]
      exact ⟨rfl, rfl⟩
  | begin _ charge =>
      obtain ⟨-, rfl⟩ := charge_eq_ok charge
      exact ⟨rfl, rfl⟩

/-- What an operation that calls no predicate comes to: it arranges the stacks, it pays, and
it asks the output checker. -/
inductive Acts : Machine → Machine → Prop
  | refl (machine : Machine) : Acts machine machine
  | trans {first second third : Machine} (left : Acts first second)
      (right : Acts second third) : Acts first third
  | arrange (stack alt : List Bytes) (machine : Machine) :
      Acts machine { machine with stack := stack, alt := alt }
  | charge (amount : Nat) (machine : Machine) :
      Acts machine (Runs.final ((Machine.charge amount).run machine))
  | ask (query : OutputQuery) (machine : Machine) :
      Acts machine { machine with books.journal := .asked query :: machine.books.journal }

theorem Acts.moves {inner : Machine → Machine → Prop} {before after : Machine}
    (acts : Acts before after) : Moves inner before after := by
  induction acts with
  | refl machine => exact .refl machine
  | trans _ _ left right => exact left.trans right
  | arrange stack alt machine => exact .arrange stack alt machine.position machine
  | charge amount machine => exact .charge amount machine
  | ask query machine => exact .note (.asked query) (fun _ => Event.noConfusion) machine

/-- An action that only makes moves, however it ends. -/
def Moving {Result : Type} (inner : Machine → Machine → Prop) (action : Run Result) : Prop :=
  ∀ machine : Machine, Moves inner machine (Runs.final (action.run machine))

/-- An action that only acts by itself, however it ends. -/
def Acting {Result : Type} (action : Run Result) : Prop :=
  ∀ machine : Machine, Acts machine (Runs.final (action.run machine))

section Operations

variable {Result Next : Type}

theorem acting_pure (result : Result) : Acting (pure result) :=
  Acts.refl

theorem acting_throw (stop : Stop) : Acting (throw stop : Run Result) :=
  Acts.refl

theorem acting_get : Acting get :=
  Acts.refl

theorem Acting.bind {action : Run Result} {next : Result → Run Next}
    (first : Acting action) (rest : ∀ result, Acting (next result)) :
    Acting (action >>= next) :=
  Runs.related_bind .trans first rest

theorem acting_attempt (result : Except Fault Result) : Acting (attempt result) := by
  cases result with
  | error cause => exact acting_throw _
  | ok value => exact acting_pure value

theorem acting_charge (amount : Nat) : Acting (charge amount) :=
  Acts.charge amount

theorem acting_setStack (stack : List Bytes) : Acting (setStack stack) :=
  fun machine => .arrange stack machine.alt machine

theorem acting_push (item : Bytes) : Acting (push item) :=
  (acting_charge _).bind fun _ machine =>
    .arrange (item :: machine.stack) machine.alt machine

theorem acting_pushAll (items : List Bytes) : Acting (pushAll items) := by
  induction items with
  | nil => exact acting_pure ()
  | cons item items ih => exact (acting_push item).bind fun _ => ih

theorem acting_settle (effect : StackEffect) : Acting (settle effect) := by
  have toll : Acting (payToll effect.toll) := by
    cases effect.toll with
    | none => exact acting_pure ()
    | some toll => exact acting_charge toll
  have query : Acting (noteQuery effect.query) := by
    cases effect.query with
    | none => exact acting_pure ()
    | some query => exact Acts.ask query
  have delivery : Acting (deliver effect.outcome) := by
    cases effect.outcome with
    | ok items => exact acting_pushAll items
    | error stop => exact acting_throw stop
  rw [settle_eq]
  exact toll.bind fun _ => (acting_setStack _).bind fun _ =>
    query.bind fun _ => delivery

theorem acting_pop : Acting pop := by
  refine acting_get.bind fun machine => ?_
  split
  · rename_i item below _
    exact (acting_setStack below).bind fun _ => acting_pure item
  · exact acting_throw _

theorem acting_resume (verdict : Except Stop Bool) : Acting (resume verdict) := by
  cases verdict with
  | ok succeeded => exact acting_push _
  | error stop => exact acting_throw stop

theorem acting_affect (effect : List Bytes → StackEffect) : Acting (affect effect) :=
  acting_get.bind fun machine =>
    (acting_settle (effect machine.stack)).bind fun _ => acting_pure _

/-- Only a call does more than act by itself. -/
theorem acting_execute (nested : Run Halt) (context : Context) (data : Bytes)
    {operation : Operation} (alone : operation ≠ .checkPredicate) :
    Acting (execute nested context data operation) := by
  cases operation with
  | nop => exact acting_pure _
  | fail => exact acting_pure _
  | jump => exact (acting_attempt _).bind fun _ => acting_pure _
  | jumpIf =>
      refine (acting_attempt _).bind fun target => acting_pop.bind fun condition => ?_
      split
      · exact acting_pure _
      · exact acting_pure _
  | verify =>
      refine acting_pop.bind fun condition => ?_
      split
      · exact acting_pure _
      · exact acting_throw _
  | toAlt =>
      exact acting_pop.bind fun item machine =>
        .arrange machine.stack (item :: machine.alt) machine
  | fromAlt =>
      intro machine
      simp only [execute, EStateM.run_bind, EStateM.run_get]
      cases machine.alt with
      | nil => exact .refl machine
      | cons item rest => exact .arrange (item :: machine.stack) rest machine
  | checkPredicate => exact absurd rfl alone
  | push => exact (acting_push data).bind fun _ => acting_pure _
  | shuffle shuffle => exact acting_affect _
  | splice splice => exact acting_affect _
  | bitwise bitwise => exact acting_affect _
  | numeric numeric => exact acting_affect _
  | attest attest => exact acting_affect _
  | observe observe => exact acting_affect _

end Operations

section Actions

variable {inner : Machine → Machine → Prop} {Result Next : Type}

theorem Acting.moving {action : Run Result} (acting : Acting action) : Moving inner action :=
  fun machine => (acting machine).moves

theorem moving_pure (result : Result) : Moving inner (pure result) :=
  Moves.refl

theorem moving_get : Moving inner get :=
  Moves.refl

theorem Moving.bind {action : Run Result} {next : Result → Run Next}
    (first : Moving inner action) (rest : ∀ result, Moving inner (next result)) :
    Moving inner (action >>= next) :=
  Runs.related_bind .trans first rest

theorem moving_note {event : Event} (silent : ∀ depth, event ≠ .entered depth) :
    Moving inner (note event) :=
  Moves.note event silent

theorem moving_setStack (stack : List Bytes) : Moving inner (setStack stack) :=
  (acting_setStack stack).moving

theorem moving_push (item : Bytes) : Moving inner (push item) :=
  (acting_push item).moving

theorem moving_pushAll (items : List Bytes) : Moving inner (pushAll items) :=
  (acting_pushAll items).moving

theorem moving_resume (verdict : Except Stop Bool) : Moving inner (resume verdict) :=
  (acting_resume verdict).moving

end Actions

section Steps

variable {inner : Machine → Machine → Prop} {nested : Run Halt}

theorem moving_checkPredicate
    (below : ∀ callee, inner callee (Runs.final (nested.run callee))) :
    Moving inner (checkPredicate nested) := by
  intro caller
  rw [run_checkPredicate]
  by_cases deep : maxDepth ≤ caller.depth
  · rw [if_pos deep]
    exact .refl caller
  · rw [if_neg deep]
    cases read : Call.ofStack caller.stack with
    | error stop => exact .refl caller
    | ok call =>
        have called := Moves.call (Nat.lt_of_not_le deep) read (below (call.machine caller))
        exact called.trans (moving_resume _ _)

theorem moving_execute (below : ∀ callee, inner callee (Runs.final (nested.run callee)))
    (context : Context) (data : Bytes) (operation : Operation) :
    Moving inner (execute nested context data operation) := by
  by_cases calls : operation = .checkPredicate
  · rw [calls]
    exact (moving_checkPredicate below).bind fun _ => moving_pure _
  · exact (acting_execute nested context data calls).moving

/-- An instruction begins only after its cost was paid, which is positive. -/
theorem moving_perform (below : ∀ callee, inner callee (Runs.final (nested.run callee)))
    (context : Context) (machine : Machine) :
    Moving inner (perform nested context machine) := by
  refine (acting_attempt _).moving.bind fun fetched current => ?_
  rw [EStateM.run_bind]
  cases charge : (Machine.charge fetched.2.cost).run current with
  | error stop charged =>
      have paying : Moves inner current _ := .charge fetched.2.cost current
      rw [charge] at paying
      exact paying
  | ok result charged =>
      have begun : Moves inner current _ := .begin fetched.2.cost_pos charge
      cases allowed : machine.allow fetched.1 fetched.2 with
      | error cause =>
          have paying : Moves inner current _ := .charge fetched.2.cost current
          rw [charge] at paying
          simp only [carryOut, allowed]
          exact paying
      | ok granted =>
          have carried := ((moving_execute below context fetched.1.data fetched.2).bind
            fun next => moving_pure (fetched.1, next))
              { charged with books.started := charged.books.started + 1 }
          simp only [carryOut, allowed]
          exact begun.trans carried

theorem moving_record (opcode : Opcode) (gasBefore : Nat) :
    Moving inner (record opcode gasBefore) := by
  refine moving_get.bind fun machine => ?_
  split
  · exact moving_note fun _ => Event.noConfusion
  · exact moving_pure _

theorem moving_proceed (following : Nat) (next : Next) :
    Moving inner (proceed following next) := by
  cases next with
  | halt => exact moving_pure _
  | target position =>
      exact fun machine => .arrange machine.stack machine.alt position machine
  | following =>
      exact fun machine => .arrange machine.stack machine.alt following machine

theorem moving_conclude (machine : Machine) (performed : Instruction × Next) :
    Moving inner (conclude machine performed) :=
  (moving_record _ _).bind fun _ => moving_proceed _ _

theorem moving_stepWith (below : ∀ callee, inner callee (Runs.final (nested.run callee)))
    (context : Context) : Moving inner (stepWith nested context) := by
  rw [stepWith_eq]
  exact moving_get.bind fun machine =>
    (moving_perform below context machine).bind fun _ => moving_conclude machine _

end Steps

section Runs

variable {relation : Machine → Machine → Prop}

/-- A loop keeps what each of its steps keeps. -/
theorem related_loop {step : Run (Option Halt)} (refl : ∀ machine, relation machine machine)
    (trans : ∀ {first second third}, relation first second → relation second third →
      relation first third)
    (keeps : ∀ machine, relation machine (Runs.final (step.run machine)))
    (machine : Machine) : relation machine (Runs.final (loop step machine)) := by
  -- The loop only goes on when gas was used, so the induction is on what remains.
  induction gas : machine.books.meter.remaining using Nat.strongRecOn
    generalizing machine with
  | ind gas ih =>
      by_cases running : machine.position < machine.tape.length
      · have begun := keeps machine
        rw [loop_of_running running]
        cases stepped : step.run machine with
        | error stop after =>
            rw [stepped] at begun
            exact begun
        | ok halted after =>
            rw [stepped] at begun
            cases halted with
            | some halt => exact begun
            | none =>
                simp only
                split
                · rename_i lower
                  exact trans begun (ih _ (gas ▸ lower) after rfl)
                · exact begun
      · rw [loop_of_finished running]
        exact refl machine

theorem moving_loop {step : Run (Option Halt)} (moving : Moving relation step) :
    Moving relation (loop step) :=
  related_loop .refl .trans moving

theorem related_runLevels
    (closed : ∀ before after, Moves relation before after → relation before after)
    (context : Context) (levels : Nat) (machine : Machine) :
    relation machine (Runs.final ((runLevels context levels).run machine)) := by
  induction levels generalizing machine with
  | zero =>
      have below (callee : Machine) : relation callee
          (Runs.final ((throw (.breach .missingOperand) : Run Halt).run callee)) :=
        closed _ _ (.refl callee)
      exact closed _ _ (moving_loop (moving_stepWith below context) machine)
  | succ levels ih => exact closed _ _ (moving_loop (moving_stepWith ih context) machine)

/-- A relation that moves respect holds between the start and the end of every
run. -/
theorem related_run
    (closed : ∀ before after, Moves relation before after → relation before after)
    (context : Context) (machine : Machine) :
    relation machine (Runs.final ((run context).run machine)) :=
  related_runLevels closed context _ machine

end Runs

end EntryLedger.Machine
