import EntryLedger.Proofs.Machine.Intact

/-!
# Every run ends within its gas

A run is a loop that knows no bound: jumps lead wherever they want, and a step may
have another machine run.  It ends nevertheless, because every instruction is paid
for before it begins and predicates nest to a fixed depth only.  The guard of the
loop, which stops it if a step used no gas, is never needed.
-/

namespace EntryLedger.Machine

/-! ### Nested runs -/

section Nested

variable {nested nested' : Run Halt} {context context' : Context} {machine : Machine}

/-- A step only asks its context to verify signatures and for what its instruction
observes, and it only has machines of its own version run that are one level deeper. -/
theorem run_stepWith_congr_of_observed
    (verifier : context.verifySignature = context'.verifySignature)
    (observed : ∀ instruction observe, machine.fetch = .ok (instruction, .observe observe) →
      observe.effect context = observe.effect context')
    (agree : ∀ callee, callee.depth = machine.depth + 1 → callee.depth ≤ maxDepth →
      callee.version = machine.version → nested.run callee = nested'.run callee) :
    (stepWith nested context).run machine = (stepWith nested' context').run machine := by
  have called (caller : Machine) (level : caller.depth = machine.depth)
      (version : caller.version = machine.version) :
      (checkPredicate nested).run caller = (checkPredicate nested').run caller := by
    rw [run_checkPredicate, run_checkPredicate]
    by_cases deep : maxDepth ≤ caller.depth
    · rw [if_pos deep, if_pos deep]
    · rw [if_neg deep, if_neg deep]
      cases read : Call.ofStack caller.stack with
      | error stop => rfl
      | ok call =>
          have deeper : (call.machine caller).depth = machine.depth + 1 := by
            rw [← level]
            rfl
          have same := agree (call.machine caller) deeper (by omega) version
          simp only [same]
  have executed (instruction : Instruction) (operation : Operation)
      (fetched : machine.fetch = .ok (instruction, operation)) (current : Machine)
      (level : current.depth = machine.depth) (version : current.version = machine.version) :
      (execute nested context instruction.data operation).run current =
        (execute nested' context' instruction.data operation).run current := by
    cases operation with
    | checkPredicate =>
        exact Runs.bind_congr (called current level version) fun _ _ _ => rfl
    | attest attest => simp only [execute, verifier]
    | observe observe => simp only [execute, observed instruction observe fetched]
    | _ => rfl
  rw [stepWith_eq, stepWith_eq]
  refine Runs.bind_congr rfl fun _ _ got => ?_
  cases got
  refine Runs.bind_congr (Runs.bind_congr rfl fun fetched _ fetch => ?_) fun _ _ _ => rfl
  obtain ⟨found, rfl⟩ := attempt_eq_ok.mp fetch
  refine Runs.bind_congr rfl fun _ charged charge => ?_
  obtain ⟨-, rfl⟩ := charge_eq_ok charge
  refine Runs.bind_congr rfl fun _ _ tested => ?_
  obtain ⟨-, rfl⟩ := attempt_eq_ok.mp tested
  refine Runs.bind_congr rfl fun _ _ counted => ?_
  cases counted
  exact Runs.bind_congr (executed fetched.1 fetched.2 found _ rfl rfl) fun _ _ _ => rfl

/-- A step only has machines run that are one level deeper. -/
theorem run_stepWith_congr (context : Context)
    (agree : ∀ callee, callee.depth = machine.depth + 1 → callee.depth ≤ maxDepth →
      nested.run callee = nested'.run callee) :
    (stepWith nested context).run machine = (stepWith nested' context).run machine :=
  run_stepWith_congr_of_observed rfl (fun _ _ _ => rfl) fun callee deeper shallow _ =>
    agree callee deeper shallow

end Nested

/-! ### The equation of runs -/

variable {context : Context} {machine : Machine}

theorem run_run (context : Context) (machine : Machine) :
    (run context).run machine =
      (runLevels context (maxDepth - machine.depth)).run machine :=
  rfl

/-- A run takes steps as long as it is not at the end of its program, and its
steps may have it run again. -/
theorem run_eq (context : Context) (machine : Machine) :
    (run context).run machine =
      if machine.position < machine.tape.length then
        match (stepWith (run context) context).run machine with
        | .error stop after => .error stop after
        | .ok (some halt) after => .ok halt after
        | .ok none after => (run context).run after
      else .ok machine.haltAtEnd machine := by
  obtain ⟨nested, advances, unfolded, agree⟩ : ∃ nested : Run Halt, Advances nested ∧
      runLevels context (maxDepth - machine.depth) = loop (stepWith nested context) ∧
      ∀ callee, callee.depth = machine.depth + 1 → callee.depth ≤ maxDepth →
        nested.run callee = (run context).run callee := by
    cases height : maxDepth - machine.depth with
    | zero =>
        refine ⟨_, advances_throw _, rfl, fun callee deeper shallow => ?_⟩
        omega
    | succ levels =>
        refine ⟨_, advances_runLevels context levels, rfl, fun callee deeper shallow => ?_⟩
        have left : maxDepth - callee.depth = levels := by omega
        rw [run_run, left]
  have looped : (run context).run machine = loop (stepWith nested context) machine := by
    rw [run_run, unfolded]
    rfl
  rw [looped]
  by_cases running : machine.position < machine.tape.length
  · rw [if_pos running, ← run_stepWith_congr context agree, loop_of_running running]
    cases stepped : (stepWith nested context).run machine with
    | error stop after => rfl
    | ok halted after =>
        cases halted with
        | some halt => rfl
        | none =>
            have lower := remaining_lt_of_stepWith advances stepped
            have onward := advances_stepWith advances context machine
            rw [stepped, Runs.final_ok] at onward
            simp only [if_pos lower]
            rw [run_run, onward.depth, unfolded]
            rfl
  · rw [if_neg running, loop_of_finished running]

/-- What holds of a machine because it holds of the machines that its next step has run, and of
the machine after that step, holds of all machines. -/
theorem run_induction (context : Context) {motive : Machine → Prop}
    (next : ∀ machine,
      (∀ callee, callee.depth = machine.depth + 1 → callee.depth ≤ maxDepth → motive callee) →
      (∀ after, (stepWith (run context) context).run machine = .ok none after →
        motive after) →
      motive machine)
    (machine : Machine) : motive machine := by
  -- Nested runs are deeper, and further steps have less gas.
  induction levels : maxDepth - machine.depth using Nat.strongRecOn generalizing machine with
  | ind levels deeper =>
      induction gas : machine.books.meter.remaining using Nat.strongRecOn
        generalizing machine with
      | ind gas later =>
          apply next
          · intro callee deep shallow
            exact deeper _ (by omega) callee rfl
          · intro after stepped
            have advances := advances_run context
            have lower := remaining_lt_of_stepWith advances stepped
            have onward := advances_stepWith advances context machine
            rw [stepped, Runs.final_ok] at onward
            exact later _ (gas ▸ lower) after (onward.depth ▸ levels) rfl

/-- The course of a run to its end, step by step and with no bound on the number
of steps.  The runs that a step may have another machine do come to an end as
well. -/
inductive Finishes (context : Context) : Machine → EStateM.Result Stop Machine Halt → Prop
  | atEnd {machine : Machine} (finished : ¬ machine.position < machine.tape.length) :
      Finishes context machine (.ok machine.haltAtEnd machine)
  | stopped {machine after : Machine} {stop : Stop} {nested : Run Halt}
      (running : machine.position < machine.tape.length)
      (below : ∀ callee, callee.depth = machine.depth + 1 → callee.depth ≤ maxDepth →
        Finishes context callee (nested.run callee))
      (stepped : (stepWith nested context).run machine = .error stop after) :
      Finishes context machine (.error stop after)
  | halted {machine after : Machine} {halt : Halt} {nested : Run Halt}
      (running : machine.position < machine.tape.length)
      (below : ∀ callee, callee.depth = machine.depth + 1 → callee.depth ≤ maxDepth →
        Finishes context callee (nested.run callee))
      (stepped : (stepWith nested context).run machine = .ok (some halt) after) :
      Finishes context machine (.ok halt after)
  | goesOn {machine after : Machine} {result : EStateM.Result Stop Machine Halt}
      {nested : Run Halt} (running : machine.position < machine.tape.length)
      (below : ∀ callee, callee.depth = machine.depth + 1 → callee.depth ≤ maxDepth →
        Finishes context callee (nested.run callee))
      (stepped : (stepWith nested context).run machine = .ok none after)
      (rest : Finishes context after result) : Finishes context machine result

/-- A run comes to one end only. -/
theorem Finishes.eq_run {result : EStateM.Result Stop Machine Halt}
    (finishes : Finishes context machine result) : (run context).run machine = result := by
  induction finishes with
  | atEnd finished => rw [run_eq, if_neg finished]
  | stopped running _ stepped below =>
      rw [run_eq, if_pos running, run_stepWith_congr context below, stepped]
  | halted running _ stepped below =>
      rw [run_eq, if_pos running, run_stepWith_congr context below, stepped]
  | goesOn running _ stepped _ below rest =>
      rw [run_eq, if_pos running, run_stepWith_congr context below, stepped]
      exact rest

theorem finishes_run (context : Context) (machine : Machine) :
    Finishes context machine ((run context).run machine) := by
  induction machine using run_induction context with
  | next machine below later =>
      rw [run_eq]
      by_cases running : machine.position < machine.tape.length
      · rw [if_pos running]
        cases stepped : (stepWith (run context) context).run machine with
        | error stop after => exact .stopped running below stepped
        | ok halted after =>
            cases halted with
            | some halt => exact .halted running below stepped
            | none => exact .goesOn running below stepped (later after stepped)
      · rw [if_neg running]
        exact .atEnd running

/-! ### What runs begin -/

/-- A later machine that has paid for every instruction that was begun since, and
has set up no machine that is nested too deep. -/
structure Affords (before after : Machine) : Prop where
  started : after.books.started + after.books.meter.remaining ≤
    before.books.started + before.books.meter.remaining
  entered : ∃ events, after.books.journal = events ++ before.books.journal ∧
    ∀ depth, Event.entered depth ∈ events → depth ≤ maxDepth

namespace Affords

variable {before after : Machine}

theorem of_quiet (started : after.books.started = before.books.started)
    (journal : after.books.journal = before.books.journal)
    (remaining : after.books.meter.remaining ≤ before.books.meter.remaining) :
    before.Affords after where
  started := by omega
  entered := ⟨[], journal, fun _ member => (List.not_mem_nil member).elim⟩

theorem trans {first second third : Machine} (left : first.Affords second)
    (right : second.Affords third) : first.Affords third where
  started := Nat.le_trans right.started left.started
  entered := by
    obtain ⟨early, begun, shallow⟩ := left.entered
    obtain ⟨late, ended, shallow'⟩ := right.entered
    refine ⟨late ++ early, ?_, fun depth member => ?_⟩
    · rw [ended, begun, List.append_assoc]
    · rcases List.mem_append.mp member with inLate | inEarly
      · exact shallow' depth inLate
      · exact shallow depth inEarly

theorem charge (amount : Nat) (machine : Machine) :
    machine.Affords (Runs.final ((Machine.charge amount).run machine)) := by
  have remaining := (precedes_charge amount machine).books.remaining_le
  obtain ⟨meter, allowance, charged⟩ := exists_run_charge amount machine
  rw [charged] at remaining ⊢
  exact .of_quiet rfl rfl remaining

end Affords

/-- Every move is paid for and stays within the depth, if nested runs do. -/
theorem Moves.affords {before after : Machine} (moves : Moves Affords before after) :
    before.Affords after := by
  induction moves with
  | refl machine => exact .of_quiet rfl rfl (Nat.le_refl _)
  | trans _ _ left right => exact left.trans right
  | arrange stack alt position machine => exact .of_quiet rfl rfl (Nat.le_refl _)
  | charge amount machine => exact .charge amount machine
  | note event silent machine =>
      refine ⟨Nat.le_refl _, [event], rfl, fun depth member => ?_⟩
      exact (silent depth (List.mem_singleton.mp member).symm).elim
  | @begin cost machine charged positive charge =>
      obtain ⟨enough, rfl⟩ := charge_eq_ok charge
      constructor
      · simp only [paid]
        omega
      · exact ⟨[], rfl, fun _ member => (List.not_mem_nil member).elim⟩
  | @call call machine ended shallow _ nested =>
      obtain ⟨events, journal, within⟩ := nested.entered
      refine ⟨nested.started, events ++ [.entered (machine.depth + 1)], ?_, ?_⟩
      · rw [List.append_assoc]
        exact journal
      · intro depth member
        rcases List.mem_append.mp member with inside | outside
        · exact within depth inside
        · cases List.mem_singleton.mp outside
          exact shallow

/-- Every run ends, and never in a breach.  It begins at most as many instructions,
at all levels together, as it takes units of gas from the meter, and it sets up no
machine beyond the greatest depth. -/
theorem run_ends_within_gas (context : Context) (machine : Machine) :
    (∀ result, Finishes context machine result ↔ (run context).run machine = result) ∧
      Intact ((run context).run machine) ∧
      ∃ after gas events, Runs.final ((run context).run machine) = after ∧
        after.books.meter.remaining + gas = machine.books.meter.remaining ∧
        after.books.meter.used = machine.books.meter.used + gas ∧
        after.books.started ≤ machine.books.started + gas ∧
        after.books.journal = events ++ machine.books.journal ∧
        ∀ depth, Event.entered depth ∈ events → depth ≤ maxDepth := by
  have affords := related_run (fun _ _ => Moves.affords) context machine
  have course := (advances_run context machine).books
  have remaining := course.remaining_le
  have total := course.total
  have started := affords.started
  obtain ⟨events, journal, within⟩ := affords.entered
  refine ⟨fun result => ⟨Finishes.eq_run, ?_⟩, intact_run context machine, _,
    (Runs.final ((run context).run machine)).books.meter.used - machine.books.meter.used,
    events, rfl, ?_, ?_, ?_, journal, within⟩
  · rintro rfl
    exact finishes_run context machine
  · omega
  · omega
  · omega

end EntryLedger.Machine
