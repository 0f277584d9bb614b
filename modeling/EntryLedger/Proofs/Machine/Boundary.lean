import EntryLedger.Proofs.Machine.Termination

/-!
# Instruction boundaries

A run can be watched between two instructions.  What it comes to there, it comes to
by steps, and a step of `CHECKPREDICATE` has one other machine run to its end.  What
every move of a machine respects holds at all of these places.
-/

namespace EntryLedger.Machine

variable {context : Context} {machine : Machine}

/-- A step may have the machine itself run again. -/
theorem run_step (context : Context) (machine : Machine) :
    (step context).run machine = (stepWith (run context) context).run machine := by
  have unfolded : (step context).run machine =
      (stepWith (runLevels context (maxDepth - machine.depth - 1)) context).run machine :=
    rfl
  rw [unfolded]
  refine run_stepWith_congr context fun callee deeper _ => ?_
  have left : maxDepth - callee.depth = maxDepth - machine.depth - 1 := by omega
  rw [run_run, left]

/-- What a run comes to between two of its instructions. -/
inductive Reaches (context : Context) (machine : Machine) : Machine → Prop
  | start : Reaches context machine machine
  | step {later after : Machine} (reached : Reaches context machine later)
      (running : later.position < later.tape.length)
      (stepped : (step context).run later = .ok none after) :
      Reaches context machine after

/-- A run goes on from wherever it has come to. -/
theorem Reaches.run_eq {later : Machine} (reached : Reaches context machine later) :
    (run context).run machine = (run context).run later := by
  induction reached with
  | start => rfl
  | step _ running stepped ih =>
      rw [ih, Machine.run_eq, if_pos running, ← run_step, stepped]

/-- A run comes to its start and to what it comes to from its first step on. -/
theorem Reaches.head {later : Machine} (reached : Reaches context machine later) :
    later = machine ∨ ∃ after, (Machine.step context).run machine = .ok none after ∧
      Reaches context after later := by
  induction reached with
  | start => exact .inl rfl
  | @step middle last _ running stepped ih =>
      rcases ih with rfl | ⟨after, first, onward⟩
      · exact .inr ⟨last, stepped, .start⟩
      · exact .inr ⟨after, first, onward.step running stepped⟩

/-- A run comes to whatever it comes to from its first step on. -/
theorem Reaches.of_step {after later : Machine} (running : machine.position < machine.tape.length)
    (stepped : (Machine.step context).run machine = .ok none after)
    (reached : Reaches context after later) : Reaches context machine later := by
  induction reached with
  | start => exact .step .start running stepped
  | step _ running stepped ih => exact ih.step running stepped

section Related

variable {relation : Machine → Machine → Prop}

/-- A relation that moves respect holds between the start and the end of every
step. -/
theorem related_step
    (closed : ∀ before after, Moves relation before after → relation before after)
    (context : Context) (machine : Machine) :
    relation machine (Runs.final ((step context).run machine)) := by
  rw [run_step]
  exact closed _ _ (moving_stepWith (related_run closed context) context machine)

/-- It also holds between the start of a run and all that the run comes to. -/
theorem Reaches.related {later : Machine} (reached : Reaches context machine later)
    (refl : ∀ machine, relation machine machine)
    (trans : ∀ {first second third}, relation first second → relation second third →
      relation first third)
    (steps : ∀ machine, relation machine (Runs.final ((Machine.step context).run machine))) :
    relation machine later := by
  induction reached with
  | start => exact refl machine
  | @step later after _ _ stepped ih =>
      have onward := steps later
      rw [stepped] at onward
      exact trans ih onward

end Related

theorem Reaches.precedes {later : Machine} (reached : Reaches context machine later) :
    machine.Precedes later :=
  reached.related Precedes.refl .trans (related_step (fun _ _ => Moves.precedes) context)

/-! ### Nested runs -/

/-- A call is read from three operands and the items below them. -/
theorem Call.ofStack_eq_ok {stack : List Bytes} {call : Call}
    (read : Call.ofStack stack = .ok call) :
    ∃ limitItem countItem,
      stack = limitItem :: call.predicate :: countItem :: (call.items ++ call.rest) ∧
        Number.read limitItem = some (call.limit : Int) := by
  unfold Call.ofStack at read
  split at read
  · rename_i limitItem predicate countItem below
    cases limitRead : Number.read limitItem with
    | none => simp [limitRead] at read
    | some limit =>
        cases countRead : Number.read countItem with
        | none => simp [limitRead, countRead] at read
        | some count =>
            simp only [limitRead, countRead] at read
            generalize (if count = -1 then below.length else count.toNat) = taken at read
            by_cases negative : limit < 0
            · rw [if_pos negative] at read
              cases read
            · rw [if_neg negative] at read
              split at read
              · cases read
              · split at read
                · cases read
                · cases read
                  refine ⟨limitItem, countItem, ?_, ?_⟩
                  · rw [List.take_append_drop]
                  · rw [limitRead]
                    simp only [Int.toNat_of_nonneg (Int.not_lt.mp negative)]
  · cases read

/-- A call takes the items that its operands count, or all of them. -/
theorem Call.ofStack_eq {limitItem predicate countItem : Bytes} {items rest : List Bytes}
    {limit : Nat} {count : Int} (limited : Number.read limitItem = some (limit : Int))
    (counted : Number.read countItem = some count)
    (counts : count = items.length ∨ (count = -1 ∧ rest = [])) :
    Call.ofStack (limitItem :: predicate :: countItem :: (items ++ rest)) =
      .ok { predicate := predicate, items := items, rest := rest, limit := limit } := by
  have taken : (if count = -1 then (items ++ rest).length else count.toNat) =
      items.length := by
    rcases counts with rfl | ⟨rfl, rfl⟩
    · rw [if_neg (by omega), Int.toNat_natCast]
    · simp
  have held : ¬ (items ++ rest).length < items.length := by
    rw [List.length_append]
    omega
  simp only [Call.ofStack, limited, counted]
  rw [if_neg (by omega), if_neg (by omega), taken, if_neg held, List.take_left,
    List.drop_left, Int.toNat_natCast]

/-- The call that the next step of a machine makes, and the machine as it waits for
the nested run: it has paid for the instruction, and the operands are still there. -/
inductive Calls (machine : Machine) (call : Call) : Machine → Prop
  | intro {instruction : Instruction} {charged : Machine}
      (fetched : machine.fetch = .ok (instruction, .checkPredicate))
      (paid : (charge Operation.checkPredicate.cost).run machine = .ok () charged)
      (allowed : machine.allow instruction .checkPredicate = .ok ())
      (shallow : machine.depth < maxDepth)
      (read : Call.ofStack machine.stack = .ok call) :
      Calls machine call { charged with books.started := charged.books.started + 1 }

namespace Calls

variable {call : Call} {caller : Machine}

theorem read (calls : Calls machine call caller) : Call.ofStack machine.stack = .ok call := by
  obtain ⟨-, -, -, -, read⟩ := calls
  exact read

/-- What has changed while a caller waits is that it has paid. -/
theorem caller_eq (calls : Calls machine call caller) :
    caller = { machine with
      books.meter := paid machine.books.meter Operation.checkPredicate.cost
      books.started := machine.books.started + 1
      allowance := machine.allowance.map (· - Operation.checkPredicate.cost) } := by
  obtain ⟨-, paid, -, -, -⟩ := calls
  obtain ⟨-, rfl⟩ := charge_eq_ok paid
  simp only

/-- A step that makes a call goes on with what the nested run leaves. -/
theorem run_stepWith (calls : Calls machine call caller) (nested : Run Halt) :
    ∃ instruction, machine.fetch = .ok (instruction, .checkPredicate) ∧
      (stepWith nested context).run machine =
        let ended := nested.run (call.machine caller)
        let books := (Runs.final ended).books
        (resume (verdictOf books.meter.exhausted (outcomeOf ended)) >>= fun _ =>
          conclude machine (instruction, .following)).run (call.caller caller books) := by
  obtain @⟨instruction, charged, fetched, paid, allowed, shallow, read⟩ := calls
  refine ⟨instruction, fetched, ?_⟩
  obtain ⟨-, rfl⟩ := charge_eq_ok paid
  rw [run_stepWith_of_allowed fetched allowed, EStateM.run_bind, paid]
  simp only [execute, pure_bind, bind_assoc]
  rw [EStateM.run_bind]
  simp only [countStart, EStateM.run_modify]
  rw [EStateM.run_bind, run_checkPredicate, if_neg (Nat.not_le_of_lt shallow)]
  simp only [read]
  rw [EStateM.run_bind]

end Calls

end EntryLedger.Machine
