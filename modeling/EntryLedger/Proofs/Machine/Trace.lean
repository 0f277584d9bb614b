import EntryLedger.Proofs.Machine.Memory

/-!
# What a trace accounts for

A machine that is traced notes every instruction that it carries out in full, with the gas that
was left before and after it.  What failing instructions of a nested run have spent shows in the
step that had the run made: it is noted after the steps of that run, which stand in front of it
without a gap.
-/

namespace EntryLedger

namespace Journal

@[simp]
theorem trace_entered (depth : Nat) (journal : Journal) :
    trace (.entered depth :: journal) = journal.trace :=
  rfl

@[simp]
theorem trace_finished (step : TraceStep) (journal : Journal) :
    trace (.finished step :: journal) = journal.trace ++ [step] :=
  List.reverse_cons

end Journal

namespace TraceStep

/-- A step that was carried out between two states of a machine. -/
structure Notes (step : TraceStep) (before after : Machine) : Prop where
  depth : step.depth = before.depth
  gasBefore : step.gasBefore = before.books.meter.remaining
  gasAfter : step.gasAfter = after.books.meter.remaining

/-- A step whose gas readings lie between two amounts. -/
structure Between (least most : Nat) (step : TraceStep) : Prop where
  least : least ≤ step.gasAfter
  ordered : step.gasAfter ≤ step.gasBefore
  most : step.gasBefore ≤ most

theorem Between.mono {least most less more : Nat} {step : TraceStep}
    (between : step.Between least most) (lower : less ≤ least) (higher : most ≤ more) :
    step.Between less more where
  least := Nat.le_trans lower between.least
  ordered := between.ordered
  most := Nat.le_trans between.most higher

end TraceStep

namespace Machine

/-- The steps that were noted until now. -/
def trace (machine : Machine) : List TraceStep :=
  machine.books.journal.trace

variable {context : Context} {machine : Machine}

/-! ### Nested machines -/

namespace Calls

variable {call : Call} {caller : Machine} (calls : Calls machine call caller)
include calls

theorem shallow : machine.depth < maxDepth := by
  obtain ⟨-, -, -, shallow, -⟩ := calls
  exact shallow

theorem depth_machine : (call.machine caller).depth = machine.depth + 1 := by
  rw [calls.caller_eq]
  rfl

theorem trace_machine : (call.machine caller).trace = machine.trace := by
  rw [calls.caller_eq]
  exact Journal.trace_entered _ _

theorem remaining_machine_le :
    (call.machine caller).books.meter.remaining ≤ machine.books.meter.remaining := by
  rw [calls.caller_eq]
  exact Nat.sub_le machine.books.meter.remaining Operation.checkPredicate.cost

end Calls

/-! ### Actions that note no step -/

/-- A later machine with the same trace. -/
def SameTrace (before after : Machine) : Prop :=
  after.trace = before.trace

/-- A later machine that notes its steps if the earlier one does. -/
def SameTracing (before after : Machine) : Prop :=
  after.books.traced = before.books.traced

theorem Acts.sameTrace {before after : Machine} (acts : Acts before after) :
    before.SameTrace after := by
  induction acts with
  | refl | arrange | ask => rfl
  | trans _ _ left right => exact right.trans left
  | charge amount machine =>
      obtain ⟨meter, allowance, charged⟩ := exists_run_charge amount machine
      rw [charged]
      rfl

/-- No move turns tracing on or off, if nested runs do not. -/
theorem Moves.sameTracing {before after : Machine} (moves : Moves SameTracing before after) :
    before.SameTracing after := by
  induction moves with
  | refl | arrange | note => rfl
  | trans _ _ left right => exact right.trans left
  | charge amount machine =>
      obtain ⟨meter, allowance, charged⟩ := exists_run_charge amount machine
      rw [charged]
      rfl
  | begin _ charge =>
      obtain ⟨-, rfl⟩ := charge_eq_ok charge
      rfl
  | call _ _ nested => exact nested

theorem Calls.sameTracing_machine {call : Call} {caller : Machine}
    (calls : Calls machine call caller) : machine.SameTracing (call.machine caller) := by
  have waiting : caller.books.traced = machine.books.traced := by rw [calls.caller_eq]
  exact waiting

theorem sameTracing_run (context : Context) (machine : Machine) :
    machine.SameTracing (Runs.final ((run context).run machine)) :=
  related_run (fun _ _ => Moves.sameTracing) context machine

/-- An action that notes no step, however it ends. -/
def Quiet {Result : Type} (action : Run Result) : Prop :=
  ∀ machine : Machine, machine.SameTrace (Runs.final (action.run machine))

theorem Acting.quiet {Result : Type} {action : Run Result} (acting : Acting action) :
    Quiet action :=
  fun machine => (acting machine).sameTrace

theorem Quiet.bind {Result Next : Type} {action : Run Result} {next : Result → Run Next}
    (first : Quiet action) (rest : ∀ result, Quiet (next result)) : Quiet (action >>= next) :=
  Runs.related_bind (fun left right => right.trans left) first rest

/-! ### Performing an instruction -/

section Perform

variable {nested : Run Halt} {instruction : Instruction} {operation : Operation}

/-- Only a call notes steps before its instruction is noted. -/
theorem quiet_carryOut (alone : operation ≠ .checkPredicate) :
    Quiet (carryOut nested context machine (instruction, operation)) := by
  have counting : Quiet countStart := fun _ => rfl
  refine (acting_attempt _).quiet.bind fun _ => counting.bind fun _ => ?_
  exact (acting_execute nested context instruction.data alone).quiet.bind fun next =>
    (acting_pure (instruction, next)).quiet

theorem fst_of_carryOut {charged after : Machine} {performed : Instruction × Next}
    (carried : (carryOut nested context machine (instruction, operation)).run charged =
      .ok performed after) : performed.1 = instruction := by
  obtain ⟨_, _, -, carried⟩ := Runs.bind_eq_ok.mp carried
  obtain ⟨_, _, -, carried⟩ := Runs.bind_eq_ok.mp carried
  obtain ⟨next, _, -, carried⟩ := Runs.bind_eq_ok.mp carried
  cases carried
  rfl

/-- What is to call a predicate but makes no call fails. -/
theorem run_carryOut_of_alone (nested : Run Halt) (context : Context) {charged : Machine}
    (fetched : machine.fetch = .ok (instruction, .checkPredicate))
    (paid : (charge Operation.checkPredicate.cost).run machine = .ok () charged)
    (alone : ∀ call caller, ¬ Calls machine call caller) :
    ∃ stop after, after.trace = machine.trace ∧
      (carryOut nested context machine (instruction, .checkPredicate)).run charged =
        .error stop after := by
  obtain ⟨-, same⟩ := charge_eq_ok paid
  have quiet : charged.trace = machine.trace := by
    rw [same]
    rfl
  simp only [carryOut]
  cases allowed : machine.allow instruction .checkPredicate with
  | error cause => exact ⟨.fault cause, charged, quiet, rfl⟩
  | ok granted =>
      have failing : ∃ stop, (checkPredicate nested).run
          { charged with books.started := charged.books.started + 1 } =
            .error stop { charged with books.started := charged.books.started + 1 } := by
        rw [run_checkPredicate]
        by_cases deep : maxDepth ≤ charged.depth
        · exact ⟨_, if_pos deep⟩
        · rw [if_neg deep]
          cases read : Call.ofStack charged.stack with
          | error stop => exact ⟨stop, rfl⟩
          | ok call =>
              -- Nothing is left that keeps the call from being made.
              rw [same] at deep read
              exact absurd (.intro fetched paid allowed (Nat.lt_of_not_le deep) read)
                (alone call _)
      obtain ⟨stop, failed⟩ := failing
      refine ⟨stop, { charged with books.started := charged.books.started + 1 }, quiet, ?_⟩
      simp only [attempt, pure_bind, countStart, EStateM.run_bind, EStateM.run_modify, execute,
        failed]

/-- An instruction that makes no call notes nothing by itself. -/
theorem perform_of_alone (nested : Run Halt) (context : Context)
    (alone : ∀ call caller, ¬ Calls machine call caller) :
    machine.SameTrace (Runs.final ((perform nested context machine).run machine)) ∧
      ∀ performed middle, (perform nested context machine).run machine = .ok performed middle →
        performed.1.opcode ≠ predicateOpcode := by
  cases fetched : machine.fetch with
  | error cause =>
      simp only [perform, fetched]
      exact ⟨rfl, fun _ _ impossible => by cases impossible⟩
  | ok found =>
      obtain ⟨instruction, operation⟩ := found
      have unfolded : perform nested context machine = charge operation.cost >>= fun _ =>
          carryOut nested context machine (instruction, operation) := by
        simp only [perform, fetched, attempt, pure_bind]
      rw [unfolded]
      by_cases calls : operation = .checkPredicate
      · subst calls
        have paying := (acting_charge Operation.checkPredicate.cost).quiet machine
        rw [EStateM.run_bind]
        cases paid : (charge Operation.checkPredicate.cost).run machine with
        | error stop after =>
            rw [paid] at paying
            exact ⟨paying, fun _ _ impossible => by cases impossible⟩
        | ok result charged =>
            obtain ⟨stop, after, quiet, failed⟩ :=
              run_carryOut_of_alone nested context fetched paid alone
            simp only [failed]
            exact ⟨quiet, fun _ _ impossible => by cases impossible⟩
      · refine ⟨(acting_charge _).quiet.bind (fun _ => quiet_carryOut calls) machine, ?_⟩
        intro performed middle ran same
        obtain ⟨_, _, -, carried⟩ := Runs.bind_eq_ok.mp ran
        obtain ⟨-, selected, -⟩ := fetch_eq_ok.mp fetched
        rw [← fst_of_carryOut carried, same] at selected
        exact calls (Option.some_inj.mp selected).symm

end Perform

/-! ### Steps -/

theorem run_proceed (following : Nat) (next : Next) (machine : Machine) :
    ∃ halted position, (proceed following next).run machine =
      .ok halted { machine with position := position } ∧ (next = .following → halted = none) := by
  cases next with
  | halt => exact ⟨_, machine.position, rfl, fun other => by cases other⟩
  | target position => exact ⟨none, position, rfl, fun _ => rfl⟩
  | following => exact ⟨none, following, rfl, fun _ => rfl⟩

/-- A machine that is traced notes the instruction that it has performed. -/
theorem run_conclude {before middle : Machine} (performed : Instruction × Next)
    (traced : middle.books.traced = true) (depth : middle.depth = before.depth) :
    ∃ halted after step, (conclude before performed).run middle = .ok halted after ∧
      after.trace = middle.trace ++ [step] ∧ step.Notes before after ∧
      step.opcode = performed.1.opcode ∧ (performed.2 = .following → halted = none) := by
  let step : TraceStep := {
    depth := middle.depth
    position := middle.position
    opcode := performed.1.opcode
    gasBefore := before.books.meter.remaining
    gasAfter := middle.books.meter.remaining
    stack := middle.stack }
  let noted : Machine :=
    { middle with books.journal := .finished step :: middle.books.journal }
  have recorded : (record performed.1.opcode before.books.meter.remaining).run middle =
      .ok () noted := by
    rw [record, EStateM.run_bind, EStateM.run_get]
    simp only
    rw [if_pos traced]
    rfl
  obtain ⟨halted, position, moved, ends⟩ :=
    run_proceed (before.position + performed.1.length) performed.2 noted
  refine ⟨halted, { noted with position := position }, step, ?_, ?_, ⟨depth, rfl, rfl⟩, rfl, ends⟩
  · rw [conclude, EStateM.run_bind, recorded]
    exact moved
  · exact Journal.trace_finished step middle.books.journal

/-- A caller that goes on after a nested run notes its instruction, unless it is stopped. -/
theorem resume_conclude {before : Machine} (waiting : Machine) (verdict : Except Stop Bool)
    (instruction : Instruction) (traced : waiting.books.traced = true)
    (depth : waiting.depth = before.depth) :
    let ended := (resume verdict >>= fun _ =>
      conclude before (instruction, .following)).run waiting
    (Runs.final ended).books.meter.remaining ≤ waiting.books.meter.remaining ∧
      ((∃ after step, ended = .ok none after ∧ after.trace = waiting.trace ++ [step] ∧
          step.Notes before after) ∨
        ∃ stop after, ended = .error stop after ∧ after.trace = waiting.trace) := by
  intro ended
  have advances := (advances_resume verdict).bind fun _ =>
    advances_conclude before (instruction, .following)
  refine ⟨(advances waiting).books.remaining_le, ?_⟩
  have acts := acting_resume verdict waiting
  have quiet := acts.sameTrace
  have tracing := acts.moves.sameTracing
  have onward := acts.moves.precedes
  change (∃ after step, (resume verdict >>= _).run waiting = _ ∧ _) ∨
    ∃ stop after, (resume verdict >>= _).run waiting = _ ∧ _
  rw [EStateM.run_bind]
  cases ran : (resume verdict).run waiting with
  | error stop after =>
      rw [ran, Runs.final_error] at quiet
      exact .inr ⟨stop, after, rfl, quiet⟩
  | ok result middle =>
      rw [ran, Runs.final_ok] at quiet tracing onward
      obtain ⟨halted, after, step, concluded, grown, notes, -, follows⟩ :=
        run_conclude (instruction, .following) (tracing.trans traced) (onward.depth.trans depth)
      have same : middle.trace = waiting.trace := quiet
      rw [same] at grown
      rw [follows rfl] at concluded
      exact .inl ⟨after, step, concluded, grown, notes⟩

section Step

variable (traced : machine.books.traced = true)
include traced

/-- A step without a call notes its instruction, or nothing if it fails. -/
theorem step_of_alone (context : Context) (alone : ∀ call caller, ¬ Calls machine call caller) :
    (∃ halted after step, (Machine.step context).run machine = .ok halted after ∧
        after.trace = machine.trace ++ [step] ∧ step.Notes machine after ∧
        step.opcode ≠ predicateOpcode) ∨
      ∃ stop after, (Machine.step context).run machine = .error stop after ∧
        after.trace = machine.trace := by
  obtain ⟨quiet, other⟩ := perform_of_alone (run context) context alone
  have tracing := (moving_perform (sameTracing_run context) context machine machine).sameTracing
  have onward := (moving_perform (advances_run context) context machine machine).precedes
  rw [run_step, stepWith_eq, EStateM.run_bind, EStateM.run_get]
  simp only
  rw [EStateM.run_bind]
  cases ran : (perform (run context) context machine).run machine with
  | error stop after =>
      rw [ran] at quiet
      exact .inr ⟨stop, after, rfl, quiet⟩
  | ok performed middle =>
      rw [ran, Runs.final_ok] at quiet tracing onward
      obtain ⟨halted, after, step, concluded, grown, notes, opcode, -⟩ :=
        run_conclude performed (tracing.trans traced) onward.depth
      have same : middle.trace = machine.trace := quiet
      rw [same] at grown
      exact .inl ⟨halted, after, step, concluded, grown, notes,
        opcode ▸ other performed middle ran⟩

/-- A step with a call notes what the nested run notes and then its instruction, which it
does not note if it fails. -/
theorem Calls.step_trace {call : Call} {caller : Machine} (context : Context)
    (calls : Calls machine call caller) :
    let inner := Runs.final ((run context).run (call.machine caller))
    let ended := (Machine.step context).run machine
    (Runs.final ended).books.meter.remaining ≤ inner.books.meter.remaining ∧
      ((∃ after step, ended = .ok none after ∧ after.trace = inner.trace ++ [step] ∧
          step.Notes machine after) ∨
        ∃ stop after, ended = .error stop after ∧ after.trace = inner.trace) := by
  intro inner ended
  obtain ⟨instruction, -, stepped⟩ : ∃ instruction, _ ∧
      (stepWith (run context) context).run machine = _ := calls.run_stepWith (run context)
  have tracing : inner.books.traced = true :=
    (sameTracing_run context (call.machine caller)).trans (calls.sameTracing_machine.trans traced)
  have depth : caller.depth = machine.depth := by rw [calls.caller_eq]
  have resumed := resume_conclude (call.caller caller inner.books)
    (verdictOf inner.books.meter.exhausted (outcomeOf ((run context).run (call.machine caller))))
    instruction tracing depth
  have same : ended = _ := (run_step context machine).trans stepped
  rw [same]
  exact resumed

end Step

/-! ### What a run notes -/

/-- A machine in whose run every machine comes to be alive that does in the run of another. -/
def Hosts (context : Context) (machine other : Machine) : Prop :=
  ∀ current callers, Alive context other (current :: callers) →
    ∃ others, Alive context machine (current :: others)

theorem Hosts.of_step {after : Machine} (running : machine.position < machine.tape.length)
    (stepped : (step context).run machine = .ok none after) : Hosts context machine after :=
  fun _ callers alive => ⟨callers, alive.of_step running stepped⟩

theorem Calls.hosts {call : Call} {caller : Machine} (calls : Calls machine call caller) :
    Hosts context machine (call.machine caller) :=
  fun _ callers alive => ⟨callers ++ [call.waiting caller], alive.of_call calls⟩

/-- A step that had a nested run made: some machine that came to be alive with the run of the
first one had noted the earlier steps when it made the call, the nested run noted the block, and
then the machine noted the step.  Whatever the nested run noted is deeper, and its readings lie
between those of the step. -/
structure Encloses (context : Context) (machine : Machine) (step : TraceStep)
    (earlier block : List TraceStep) : Prop where
  called : ∃ current callers call caller after,
    Alive context machine (current :: callers) ∧ Calls current call caller ∧
      (Machine.step context).run current = .ok none after ∧ step.Notes current after ∧
      current.trace = earlier ∧
      (Runs.final ((run context).run (call.machine caller))).trace = earlier ++ block ∧
      after.trace = earlier ++ block ++ [step]
  deeper : ∀ inner ∈ block, step.depth < inner.depth
  between : ∀ inner ∈ block, inner.Between step.gasAfter step.gasBefore

theorem Encloses.lift {first : Machine} {step : TraceStep} {earlier block : List TraceStep}
    (encloses : Encloses context machine step earlier block)
    (hosts : Hosts context first machine) : Encloses context first step earlier block where
  called := by
    obtain ⟨current, callers, call, caller, after, alive, rest⟩ := encloses.called
    obtain ⟨others, alive⟩ := hosts current callers alive
    exact ⟨current, others, call, caller, after, alive, rest⟩
  deeper := encloses.deeper
  between := encloses.between

/-- The steps that were noted from one state of a machine to a later one. -/
structure Records (context : Context) (before after : Machine) (steps : List TraceStep) :
    Prop where
  trace : after.trace = before.trace ++ steps
  deep : ∀ step ∈ steps, before.depth ≤ step.depth
  between : ∀ step ∈ steps,
    step.Between after.books.meter.remaining before.books.meter.remaining
  descends : steps.Pairwise fun early late => late.gasAfter ≤ early.gasAfter
  encloses : ∀ earlier step later, steps = earlier ++ step :: later →
    step.opcode = predicateOpcode →
    ∃ outside block, earlier = outside ++ block ∧
      Encloses context before step (before.trace ++ outside) block

/-- The gas readings of a machine's own steps from one state to a later one: each step begins
with the gas that was left by the one before it. -/
def Balances (before after : Machine) (steps : List TraceStep) : Prop :=
  let own := steps.filter fun step => step.depth = before.depth
  own.map TraceStep.gasBefore ++ [after.books.meter.remaining] =
    before.books.meter.remaining :: own.map TraceStep.gasAfter

section Records

variable {before middle after : Machine} {steps first second earlier later : List TraceStep}
  {step : TraceStep}

/-- Where two lists in a row are split, one of them is. -/
theorem split_append (whole : first ++ second = earlier ++ step :: later) :
    (∃ rest, first = earlier ++ step :: rest) ∨
      ∃ front, earlier = first ++ front ∧ second = front ++ step :: later := by
  rcases List.append_eq_append_iff.mp whole with ⟨front, rfl, rfl⟩ | ⟨rest, rfl, shared⟩
  · exact .inr ⟨front, rfl, rfl⟩
  · cases rest with
    | nil => exact .inr ⟨[], by simp, by simpa using shared.symm⟩
    | cons head rest =>
        cases shared
        exact .inl ⟨rest, rfl⟩

namespace Records

theorem nothing (same : after.trace = before.trace) : Records context before after [] where
  trace := by rw [same, List.append_nil]
  deep := fun _ member => (List.not_mem_nil member).elim
  between := fun _ member => (List.not_mem_nil member).elim
  descends := .nil
  encloses := fun earlier _ _ split => by
    simp at split

/-- Nothing is noted on the way to a state with less gas. -/
theorem silent (records : Records context before middle steps)
    (same : after.trace = middle.trace)
    (lower : after.books.meter.remaining ≤ middle.books.meter.remaining) :
    Records context before after steps where
  trace := same.trans records.trace
  deep := records.deep
  between := fun step member => (records.between step member).mono lower (Nat.le_refl _)
  descends := records.descends
  encloses := records.encloses

/-- A step is noted after others. -/
theorem snoc (records : Records context before middle steps)
    (grown : after.trace = middle.trace ++ [step]) (notes : step.Notes before after)
    (lower : after.books.meter.remaining ≤ middle.books.meter.remaining)
    (spent : after.books.meter.remaining ≤ before.books.meter.remaining)
    (encloses : step.opcode = predicateOpcode → ∃ outside block, steps = outside ++ block ∧
      Encloses context before step (before.trace ++ outside) block) :
    Records context before after (steps ++ [step]) where
  trace := by rw [grown, records.trace, List.append_assoc]
  deep := by
    intro inner member
    rcases List.mem_append.mp member with earlier | last
    · exact records.deep inner earlier
    · exact Nat.le_of_eq (List.mem_singleton.mp last ▸ notes.depth.symm)
  between := by
    intro inner member
    rcases List.mem_append.mp member with earlier | last
    · exact (records.between inner earlier).mono lower (Nat.le_refl _)
    · rw [List.mem_singleton.mp last]
      exact {
        least := Nat.le_of_eq notes.gasAfter.symm
        ordered := by rw [notes.gasAfter, notes.gasBefore]; exact spent
        most := Nat.le_of_eq notes.gasBefore }
  descends := by
    refine List.pairwise_append.mpr ⟨records.descends, List.pairwise_singleton _ _, ?_⟩
    intro inner member last isLast
    rw [List.mem_singleton.mp isLast, notes.gasAfter]
    exact Nat.le_trans lower (records.between inner member).least
  encloses := by
    intro earlier found later split calls
    rcases split_append split with ⟨rest, inside⟩ | ⟨front, rfl, alone⟩
    · exact records.encloses earlier found rest inside calls
    · -- Otherwise the step that is looked for is the one just noted.
      obtain ⟨rfl, rfl⟩ : front = [] ∧ step = found := by
        cases front with
        | nil => exact ⟨rfl, (List.cons.inj alone).1⟩
        | cons _ _ => simp at alone
      rw [List.append_nil]
      exact encloses calls

/-- What is noted on the way to a state and from there on. -/
theorem append (early : Records context before middle first)
    (late : Records context middle after second) (onward : before.Precedes middle)
    (further : middle.Precedes after) (hosts : Hosts context before middle) :
    Records context before after (first ++ second) where
  trace := by rw [late.trace, early.trace, List.append_assoc]
  deep := by
    intro step member
    rcases List.mem_append.mp member with inEarly | inLate
    · exact early.deep step inEarly
    · exact onward.depth ▸ late.deep step inLate
  between := by
    intro step member
    rcases List.mem_append.mp member with inEarly | inLate
    · exact (early.between step inEarly).mono further.books.remaining_le (Nat.le_refl _)
    · exact (late.between step inLate).mono (Nat.le_refl _) onward.books.remaining_le
  descends := by
    refine List.pairwise_append.mpr ⟨early.descends, late.descends, ?_⟩
    -- What is left in the state in between separates the readings of both parts.
    intro step inEarly other inLate
    have above := (early.between step inEarly).least
    have below := late.between other inLate
    exact Nat.le_trans below.ordered (Nat.le_trans below.most above)
  encloses := by
    intro earlier step later split calls
    rcases split_append split with ⟨rest, inside⟩ | ⟨front, rfl, inside⟩
    · exact early.encloses earlier step rest inside calls
    · obtain ⟨outside, block, rfl, encloses⟩ := late.encloses front step later inside calls
      rw [early.trace, List.append_assoc] at encloses
      exact ⟨first ++ outside, block, by rw [List.append_assoc], encloses.lift hosts⟩

/-- What a nested run notes is noted by its caller. -/
theorem of_call {call : Call} {caller ended : Machine} {block : List TraceStep}
    (calls : Calls machine call caller)
    (records : Records context (call.machine caller) ended block) :
    Records context machine ended block where
  trace := calls.trace_machine ▸ records.trace
  deep := by
    intro step member
    have deep := records.deep step member
    rw [calls.depth_machine] at deep
    exact Nat.le_of_succ_le deep
  between := by
    intro step member
    exact (records.between step member).mono (Nat.le_refl _) calls.remaining_machine_le
  descends := records.descends
  encloses := by
    intro earlier step later split predicate
    obtain ⟨outside, block, within, encloses⟩ :=
      records.encloses earlier step later split predicate
    rw [calls.trace_machine] at encloses
    exact ⟨outside, block, within, encloses.lift calls.hosts⟩

/-- What a nested run notes is deeper than its caller. -/
theorem deeper {call : Call} {caller ended : Machine} {block : List TraceStep}
    (calls : Calls machine call caller)
    (records : Records context (call.machine caller) ended block) :
    ∀ inner ∈ block, machine.depth < inner.depth := by
  intro inner member
  have deep := records.deep inner member
  rwa [calls.depth_machine] at deep

end Records

/-- A step of a caller encloses what its nested run has noted. -/
theorem Encloses.of_calls {call : Call} {caller : Machine} {block : List TraceStep}
    (calls : Calls machine call caller)
    (inner : Records context (call.machine caller)
      (Runs.final ((run context).run (call.machine caller))) block)
    (ran : (Machine.step context).run machine = .ok none after)
    (grown : after.trace =
      (Runs.final ((run context).run (call.machine caller))).trace ++ [step])
    (notes : step.Notes machine after)
    (lower : after.books.meter.remaining ≤
      (Runs.final ((run context).run (call.machine caller))).books.meter.remaining) :
    Encloses context machine step machine.trace block where
  called := by
    have noted := (inner.of_call calls).trace
    rw [noted] at grown
    exact ⟨machine, [], call, caller, after, .alone .start, calls, ran, notes, rfl, noted, grown⟩
  deeper := by
    intro other member
    rw [notes.depth]
    exact inner.deeper calls other member
  between := by
    intro other member
    rw [notes.gasAfter, notes.gasBefore]
    exact ((inner.of_call calls).between other member).mono lower (Nat.le_refl _)

/-- Of the steps of one instruction, only the last one is a machine's own. -/
theorem Balances.of_step {block : List TraceStep} (notes : step.Notes before after)
    (deeper : ∀ inner ∈ block, before.depth < inner.depth) :
    Balances before after (block ++ [step]) := by
  have none : block.filter (fun step => step.depth = before.depth) = [] := by
    rw [List.filter_eq_nil_iff]
    intro inner member same
    have deep := deeper inner member
    simp only [decide_eq_true_eq] at same
    omega
  have own : (block ++ [step]).filter (fun step => step.depth = before.depth) = [step] := by
    rw [List.filter_append, none, List.nil_append,
      List.filter_cons_of_pos (by simpa using notes.depth), List.filter_nil]
  simp only [Balances, own, List.map_cons, List.map_nil, List.singleton_append,
    notes.gasBefore, notes.gasAfter]

theorem Balances.append (early : Balances before middle first)
    (late : Balances middle after second) (depth : middle.depth = before.depth) :
    Balances before after (first ++ second) := by
  unfold Balances at *
  simp only [depth] at late
  simp only [List.filter_append, List.map_append, List.append_assoc]
  rw [late, ← List.cons_append, ← early, List.append_assoc, List.singleton_append]

/-- What a machine notes until it ends, with readings that balance unless it is stopped. -/
inductive Logs (context : Context) (machine : Machine) {Result : Type} :
    EStateM.Result Stop Machine Result → List TraceStep → Prop
  | ended {result : Result} {after : Machine} {steps : List TraceStep}
      (records : Records context machine after steps) (balances : Balances machine after steps) :
      Logs context machine (.ok result after) steps
  | stopped {stop : Stop} {after : Machine} {steps : List TraceStep}
      (records : Records context machine after steps) :
      Logs context machine (.error stop after) steps

namespace Logs

variable {Result : Type} {result : EStateM.Result Stop Machine Result}

theorem records (logs : Logs context machine result steps) :
    Records context machine (Runs.final result) steps := by
  cases logs with
  | ended records => exact records
  | stopped records => exact records

/-- What comes first balances with what comes later. -/
theorem append (early : Records context before middle first)
    (balances : Balances before middle first) (late : Logs context middle result second)
    (onward : before.Precedes middle) (further : middle.Precedes (Runs.final result))
    (hosts : Hosts context before middle) : Logs context before result (first ++ second) := by
  cases late with
  | ended records ends =>
      exact .ended (early.append records onward further hosts)
        (balances.append ends onward.depth)
  | stopped records => exact .stopped (early.append records onward further hosts)

end Logs

end Records

/-! ### Runs -/

section Step

variable (traced : machine.books.traced = true)
include traced

/-- A step that makes a call notes what the nested run notes, and then itself. -/
theorem logs_step_of_calls {call : Call} {caller : Machine} {block : List TraceStep}
    (calls : Calls machine call caller)
    (inner : Records context (call.machine caller)
      (Runs.final ((run context).run (call.machine caller))) block) :
    ∃ steps, Logs context machine ((Machine.step context).run machine) steps := by
  have spent := (related_step (fun _ _ => Moves.precedes) context machine).books.remaining_le
  obtain ⟨lower, ⟨after, step, ran, grown, notes⟩ | ⟨stop, after, ran, same⟩⟩ :=
    calls.step_trace traced context
  · rw [ran, Runs.final_ok] at lower spent
    have encloses := Encloses.of_calls calls inner ran grown notes lower
    rw [ran]
    refine ⟨block ++ [step], .ended ((inner.of_call calls).snoc grown notes lower spent ?_) ?_⟩
    · exact fun _ => ⟨[], block, rfl, (List.append_nil machine.trace).symm ▸ encloses⟩
    · exact .of_step notes (inner.deeper calls)
  · rw [ran, Runs.final_error] at lower
    rw [ran]
    exact ⟨block, .stopped ((inner.of_call calls).silent same lower)⟩

/-- Any other step notes at most itself. -/
theorem logs_step_of_alone (context : Context)
    (alone : ∀ call caller, ¬ Calls machine call caller) :
    ∃ steps, Logs context machine ((Machine.step context).run machine) steps := by
  have spent := (related_step (fun _ _ => Moves.precedes) context machine).books.remaining_le
  rcases step_of_alone traced context alone with
    ⟨halted, after, step, ran, grown, notes, other⟩ | ⟨stop, after, ran, same⟩
  · rw [ran, Runs.final_ok] at spent
    have nothing : Records context machine machine [] := .nothing rfl
    rw [ran]
    refine ⟨[] ++ [step], .ended (nothing.snoc grown notes spent spent ?_) ?_⟩
    · exact fun calls => absurd calls other
    · exact .of_step notes fun _ member => (List.not_mem_nil member).elim
  · rw [ran]
    exact ⟨[], .stopped (.nothing same)⟩

end Step

/-- A run notes what its steps note one after the other. -/
theorem logs_run (context : Context) (machine : Machine)
    (traced : machine.books.traced = true) :
    ∃ steps, Logs context machine ((run context).run machine) steps := by
  induction machine using run_induction context with
  | next machine below later =>
      rw [run_eq]
      by_cases running : machine.position < machine.tape.length
      · obtain ⟨first, early⟩ :
            ∃ first, Logs context machine ((step context).run machine) first := by
          by_cases calling : ∃ call caller, Calls machine call caller
          · obtain ⟨call, caller, calls⟩ := calling
            obtain ⟨block, inner⟩ := below (call.machine caller) calls.depth_machine
              (calls.depth_machine ▸ calls.shallow) (calls.sameTracing_machine.trans traced)
            exact logs_step_of_calls traced calls inner.records
          · exact logs_step_of_alone traced context fun call caller calls =>
              calling ⟨call, caller, calls⟩
        have onward := related_step (fun _ _ => Moves.precedes) context machine
        have tracing := related_step (fun _ _ => Moves.sameTracing) context machine
        have same := run_step context machine
        rw [same] at early onward tracing
        rw [if_pos running]
        cases stepped : (stepWith (run context) context).run machine with
        | error stop after =>
            rw [stepped] at early
            exact ⟨first, .stopped early.records⟩
        | ok halted after =>
            rw [stepped] at early onward tracing same
            cases early with
            | ended records balances =>
                cases halted with
                | some halt => exact ⟨first, .ended records balances⟩
                | none =>
                    obtain ⟨second, late⟩ := later after stepped (tracing.trans traced)
                    exact ⟨first ++ second, .append records balances late onward
                      (advances_run context after) (.of_step running same)⟩
      · rw [if_neg running]
        exact ⟨[], .ended (.nothing rfl) rfl⟩

/-- The trace of a program accounts for all of its gas.  If the program halts, the readings of
the steps at its own depth lead from the gas that it began with to the gas that is left, each
step from where the one before it ended.  Readings never rise, nested steps included.  In front
of a step of `CHECKPREDICATE` stands what its nested run has noted, however that run ended, with
readings between those of the step. -/
theorem trace_accounts (context : Context) (program : Bytes) (version : UInt64)
    (meter : Meter) :
    let machine := start program version (.ofMeter meter true)
    let ended := (run context).run machine
    let steps := (Runs.final ended).trace
    (∀ halt after, ended = .ok halt after → Balances machine after steps) ∧
      (steps.map TraceStep.gasAfter).Pairwise (· ≥ ·) ∧
      ∀ earlier step later, steps = earlier ++ step :: later →
        step.opcode = predicateOpcode →
        ∃ outside block, earlier = outside ++ block ∧
          Encloses context machine step outside block := by
  intro machine ended steps
  obtain ⟨noted, logs⟩ := logs_run context machine rfl
  have whole : steps = noted := logs.records.trace
  rw [whole]
  refine ⟨?_, List.pairwise_map.mpr logs.records.descends, ?_⟩
  · intro halt after ran
    change Logs context machine ended noted at logs
    rw [ran] at logs
    cases logs with
    | ended _ balances => exact balances
  · intro earlier step later split calls
    exact logs.records.encloses earlier step later split calls

/-- Calls a predicate that carries out three instructions and fails at the fourth. -/
def stumblingMachine : Machine :=
  start [0x00, 0x04, 0x51, 0x69, 0x00, 0x69, 0x00, 0xc0] 1 (.ofMeter (.flat 1000) true)

/-- The predicate has spent one unit of gas that only the step of its caller shows. -/
theorem trace_accounts_of_stumblingMachine :
    let ended := (run bareContext).run stumblingMachine
    let steps := (Runs.final ended).trace
    (∃ after, ended = .ok .falseResult after ∧ Balances stumblingMachine after steps) ∧
      ∃ outside block, steps.take 6 = outside ++ block ∧
        Encloses bareContext stumblingMachine ⟨0, 7, 0xc0, 969, 684, [[]]⟩ outside block := by
  intro ended steps
  obtain ⟨balances, -, encloses⟩ := trace_accounts bareContext
    [0x00, 0x04, 0x51, 0x69, 0x00, 0x69, 0x00, 0xc0] 1 (.flat 1000)
  constructor
  · have halted : (outcomeOf ended).toOption = some .falseResult := by decide +kernel
    cases ran : ended with
    | error stop after =>
        rw [ran] at halted
        cases halted
    | ok halt after =>
        rw [ran] at halted
        cases halted
        exact ⟨after, rfl, balances .falseResult after ran⟩
  · have split : steps = steps.take 6 ++ [⟨0, 7, 0xc0, 969, 684, [[]]⟩] := by decide +kernel
    exact encloses (steps.take 6) _ [] split rfl

end Machine

end EntryLedger
