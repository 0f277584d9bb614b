import EntryLedger.Proofs.Machine.Faults
import EntryLedger.Proofs.Machine.Operands

/-!
# Why machines stop

A machine only stops for a fault that comes up in its context.  In particular it never
stops for a breach: operations find the operands that they were promised, nested runs end
at a fixed depth, and every step uses gas.
-/

namespace EntryLedger

/-- Reasons for which a machine may stop in a context, before or after the deadline.  The
faults that come up there are among them. -/
structure Reasons (context : Context) where
  allows : Stop → Bool → Prop
  arises : ∀ {cause : Fault} {expired : Bool}, cause.Arises context expired →
    allows (.fault cause) expired

/-- An ending that is a stop, if it is one, for one of some reasons. -/
def StopsFor {Result : Type} {context : Context} (reasons : Reasons context)
    (ended : EStateM.Result Stop Machine Result) : Prop :=
  ∀ stop after, ended = .error stop after → reasons.allows stop after.books.meter.expired

/-- Only the faults that come up in a context. -/
def Reasons.arising (context : Context) : Reasons context where
  allows := fun stop expired => ∃ cause, stop = .fault cause ∧ cause.Arises context expired
  arises := fun arises => ⟨_, rfl, arises⟩

variable {Result Later : Type} {context : Context} {reasons : Reasons context}

theorem Reasons.plain {cause : Fault} (plain : cause.isPlain = true) (expired : Bool) :
    reasons.allows (.fault cause) expired :=
  reasons.arises (.plain plain)

namespace StopsFor

variable {machine : Machine}

theorem ok (result : Result) : StopsFor reasons (.ok result machine) := by
  rintro stop after ⟨⟩

theorem error {stop : Stop} (allowed : reasons.allows stop machine.books.meter.expired) :
    StopsFor reasons (.error stop machine : EStateM.Result Stop Machine Result) := by
  rintro _ _ ⟨⟩
  exact allowed

theorem bind {action : Run Result} {next : Result → Run Later}
    (first : StopsFor reasons (action.run machine))
    (rest : ∀ result after, action.run machine = .ok result after →
      StopsFor reasons ((next result).run after)) :
    StopsFor reasons ((action >>= next).run machine) := by
  intro stop after failed
  rcases Runs.bind_eq_error.mp failed with early | ⟨result, middle, ran, late⟩
  · exact first stop after early
  · exact rest result middle ran stop after late

end StopsFor

namespace Machine

variable {machine : Machine}

/-! ### Actions -/

theorem stopsFor_get : StopsFor reasons ((get : Run Machine).run machine) :=
  .ok machine

theorem stopsFor_modify (change : Machine → Machine) :
    StopsFor reasons ((modify change : Run Unit).run machine) :=
  .ok ()

theorem stopsFor_attempt {result : Except Fault Result}
    (fails : Checks.FailsOnly (fun cause => ∀ expired, reasons.allows (.fault cause) expired)
      result) : StopsFor reasons ((attempt result).run machine) := by
  cases result with
  | error cause => exact .error (fails cause rfl _)
  | ok value => exact .ok value

theorem stopsFor_attempt_plain {result : Except Fault Result}
    (fails : Checks.FailsOnly (fun cause => cause.isPlain = true) result) :
    StopsFor reasons ((attempt result).run machine) :=
  stopsFor_attempt (fails.mono fun _ => reasons.plain)

/-- A charge is refused for want of gas, or when the deadline has passed. -/
theorem stopsFor_charge (amount : Nat) : StopsFor reasons ((charge amount).run machine) := by
  rw [run_charge]
  unfold chargeBooks
  split
  · exact .error (reasons.plain rfl _)
  · by_cases poor : machine.books.meter.remaining < amount
    · simp only [if_pos poor]
      exact .error (reasons.plain rfl _)
    · simp only [if_neg poor]
      by_cases overdue : late machine.books.meter
      · simp only [if_pos overdue]
        exact .error (reasons.arises (.deadline overdue.1))
      · simp only [if_neg overdue]
        exact .ok _

theorem stopsFor_push (item : Bytes) : StopsFor reasons ((push item).run machine) :=
  (stopsFor_charge _).bind fun _ _ _ => .ok _

theorem stopsFor_pushAll (items : List Bytes) :
    StopsFor reasons ((pushAll items).run machine) := by
  induction items generalizing machine with
  | nil => exact .ok _
  | cons item items ih => exact (stopsFor_push item).bind fun _ _ _ => ih

theorem stopsFor_settle {effect : StackEffect} (served : effect.Served)
    (blames : ∀ expired, effect.Blames (Fault.Arises context expired)) :
    StopsFor reasons ((settle effect).run machine) := by
  have toll (machine : Machine) : StopsFor reasons ((payToll effect.toll).run machine) := by
    cases effect.toll with
    | none => exact .ok _
    | some toll => exact stopsFor_charge toll
  have query (machine : Machine) :
      StopsFor reasons ((noteQuery effect.query).run machine) := by
    cases effect.query with
    | none => exact .ok _
    | some query => exact .ok _
  have delivery (machine : Machine) :
      StopsFor reasons ((deliver effect.outcome).run machine) := by
    cases delivered : effect.outcome with
    | ok items => exact stopsFor_pushAll items
    | error stop =>
        cases stop with
        | fault cause => exact .error (reasons.arises (blames _ cause delivered))
        | breach cause => exact (served cause delivered).elim
  rw [settle_eq]
  exact (toll machine).bind fun _ _ _ => (stopsFor_modify _).bind fun _ after _ =>
    (query after).bind fun _ after _ => delivery after

/-- A machine that holds an item has one to take. -/
theorem stopsFor_pop (enough : 1 ≤ machine.stack.length) :
    StopsFor reasons (pop.run machine) := by
  obtain ⟨top, below, stacked, -⟩ := exists_top enough
  have popped : pop.run machine = .ok top { machine with stack := below } := by
    rw [pop, EStateM.run_bind, EStateM.run_get]
    simp only [stacked]
    rfl
  rw [popped]
  exact .ok _

section Affect

variable {effect : List Bytes → StackEffect} (served : (effect machine.stack).Served)
include served

theorem stopsFor_affect
    (blames : ∀ expired, (effect machine.stack).Blames (Fault.Arises context expired)) :
    StopsFor reasons ((affect effect).run machine) := by
  refine stopsFor_get.bind fun _ _ got => ?_
  cases got
  exact (stopsFor_settle served blames).bind fun _ _ _ => .ok _

theorem stopsFor_affect_plain (plain : (effect machine.stack).Plain) :
    StopsFor reasons ((affect effect).run machine) :=
  stopsFor_affect served fun _ cause failed => .plain (plain cause failed)

end Affect

/-! ### Predicates -/

theorem Call.plain_ofStack {stack : List Bytes} {cause : Fault}
    (failed : Call.ofStack stack = .error (.fault cause)) : cause.isPlain = true := by
  revert failed
  fun_cases Call.ofStack
  all_goals
    rintro ⟨⟩
    try rfl

theorem Call.ofStack_ne_breach {stack : List Bytes} (enough : 3 ≤ stack.length)
    (cause : Breach) : Call.ofStack stack ≠ .error (.breach cause) := by
  obtain ⟨limitItem, predicate, countItem, below, rfl, -⟩ := exists_three enough
  unfold Call.ofStack
  simp only
  split
  · rename_i limit count _ _
    generalize (if count = -1 then below.length else count.toNat) = taken
    split
    · simp
    · split
      · simp
      · split
        · simp
        · simp
  · simp

/-- What stops the caller of a nested run has stopped that run, or is want of gas. -/
theorem stopsFor_resume {ended : EStateM.Result Stop Machine Halt} {exhausted : Bool}
    (stops : StopsFor reasons ended)
    (punctual : machine.books.meter.expired = (Runs.final ended).books.meter.expired) :
    StopsFor reasons ((resume (verdictOf exhausted (outcomeOf ended))).run machine) := by
  cases ended with
  | ok halt after => exact stopsFor_push _
  | error stop after =>
      have allowed := stops stop after rfl
      rw [Runs.final_error] at punctual
      rw [← punctual] at allowed
      unfold outcomeOf verdictOf
      cases stop with
      | breach cause => exact .error allowed
      | fault cause =>
          split
          · exact stopsFor_push _
          · rename_i breached
            cases breached
          · rename_i late
            cases late
            exact .error allowed
          · split
            · exact .error (reasons.plain rfl _)
            · exact stopsFor_push _

section Step

variable {nested : Run Halt}
  (deeper : ∀ callee, callee.depth = machine.depth + 1 → callee.depth ≤ maxDepth →
    StopsFor reasons (nested.run callee))
include deeper

/-- A nested run is one level deeper and no deeper than the greatest depth. -/
theorem stopsFor_checkPredicate (enough : 3 ≤ machine.stack.length) :
    StopsFor reasons ((checkPredicate nested).run machine) := by
  rw [run_checkPredicate]
  split
  · exact .error (reasons.plain rfl _)
  · rename_i shallow
    split
    · rename_i stop read
      cases stop with
      | fault cause => exact .error (reasons.plain (Call.plain_ofStack read) _)
      | breach cause => exact (Call.ofStack_ne_breach enough cause read).elim
    · rename_i call read
      refine stopsFor_resume (deeper _ rfl ?_) rfl
      simp only [Call.machine]
      omega

/-- An operation that finds its operands, and its target if it jumps. -/
theorem stopsFor_execute {data : Bytes} {operation : Operation}
    (targets : operation = .jump ∨ operation = .jumpIf → Checks.FailsOnly
      (fun cause => ∀ expired, reasons.allows (.fault cause) expired) (jumpTarget data))
    (enough : operation.operands ≤ machine.stack.length) :
    StopsFor reasons ((execute nested context data operation).run machine) := by
  cases operation with
  | nop => exact .ok _
  | fail => exact .ok _
  | jump => exact (stopsFor_attempt (targets (.inl rfl))).bind fun _ _ _ => .ok _
  | jumpIf =>
      refine (stopsFor_attempt (targets (.inr rfl))).bind fun target after attempted => ?_
      obtain ⟨-, rfl⟩ := attempt_eq_ok.mp attempted
      refine (stopsFor_pop enough).bind fun condition _ _ => ?_
      split
      · exact .ok _
      · exact .ok _
  | verify =>
      refine (stopsFor_pop enough).bind fun condition _ _ => ?_
      split
      · exact .ok _
      · exact .error (reasons.plain rfl _)
  | toAlt => exact (stopsFor_pop enough).bind fun _ _ _ => .ok _
  | fromAlt =>
      simp only [execute, EStateM.run_bind, EStateM.run_get]
      split
      · exact .ok _
      · exact .error (reasons.plain rfl _)
  | checkPredicate => exact (stopsFor_checkPredicate deeper enough).bind fun _ _ _ => .ok _
  | push => exact (stopsFor_push data).bind fun _ _ _ => .ok _
  | shuffle shuffle =>
      exact stopsFor_affect_plain (Shuffle.served_effect enough) (shuffle.plain_effect _)
  | splice splice =>
      exact stopsFor_affect_plain (Splice.served_effect enough) (splice.complains_effect _).plain
  | bitwise bitwise =>
      exact stopsFor_affect_plain (Bitwise.served_effect enough) (bitwise.complains_effect _).plain
  | numeric numeric =>
      exact stopsFor_affect_plain (Numeric.served_effect enough) numeric.complains_effect.plain
  | attest attest =>
      exact stopsFor_affect_plain (Attest.served_effect enough) (attest.plain_effect _ _)
  | observe observe =>
      exact stopsFor_affect (Observe.served_effect enough) fun _ =>
        observe.reports_effect.mono fun _ reports => reports.arises _

omit deeper in
/-- An operation that is allowed has its operands. -/
theorem operands_le_of_allow {instruction : Instruction} {operation : Operation}
    (allowed : machine.allow instruction operation = .ok ()) :
    operation.operands ≤ machine.stack.length := by
  unfold allow at allowed
  split at allowed
  · cases allowed
  · rename_i enough
    rw [lacks_iff] at enough
    exact Nat.le_of_not_lt enough

omit deeper in
theorem plain_allow (instruction : Instruction) (operation : Operation) :
    Checks.FailsOnly (fun cause => cause.isPlain = true)
      (machine.allow instruction operation) := by
  unfold allow
  split
  · exact .error rfl
  · split
    · exact .error rfl
    · exact .ok _

omit deeper in
theorem stopsFor_conclude (performed : Instruction × Next) (after : Machine) :
    StopsFor reasons ((conclude machine performed).run after) := by
  obtain ⟨instruction, next⟩ := performed
  refine StopsFor.bind ?_ fun _ _ _ => ?_
  · simp only [record, EStateM.run_bind, EStateM.run_get]
    split
    · exact .ok _
    · exact .ok _
  · cases next with
    | halt => exact .ok _
    | target position => exact .ok _
    | following => exact .ok _

/-- A step stops for no other reasons than nested runs do. -/
theorem stopsFor_stepWith : StopsFor reasons ((stepWith nested context).run machine) := by
  rw [stepWith_eq]
  refine stopsFor_get.bind fun _ _ got => ?_
  cases got
  refine StopsFor.bind ?_ fun performed after _ => stopsFor_conclude performed after
  refine (stopsFor_attempt_plain plain_fetch).bind fun found _ attempted => ?_
  obtain ⟨fetched, rfl⟩ := attempt_eq_ok.mp attempted
  refine (stopsFor_charge _).bind fun _ charged charge => ?_
  obtain ⟨-, rfl⟩ := charge_eq_ok charge
  refine (stopsFor_attempt_plain (plain_allow _ _)).bind fun _ _ tested => ?_
  obtain ⟨allowed, rfl⟩ := attempt_eq_ok.mp tested
  refine (stopsFor_modify _).bind fun _ _ counted => ?_
  cases counted
  refine StopsFor.bind ?_ fun _ _ _ => .ok _
  refine stopsFor_execute ?_ (fun jumps => ?_) ?_
  · exact deeper
  · rw [jumpTarget, if_pos (length_data_of_fetch_jump fetched jumps)]
    exact .ok _
  · exact operands_le_of_allow allowed

end Step

/-! ### Runs -/

/-- A loop whose steps use gas stops only in a step. -/
theorem stopsFor_loop {step : Run (Option Halt)} {depth : Nat} (advances : Advances step)
    (lowers : ∀ machine halted after, step.run machine = .ok halted after →
      after.books.meter.remaining < machine.books.meter.remaining)
    (stops : ∀ machine, machine.depth = depth → StopsFor reasons (step.run machine))
    (machine : Machine) (level : machine.depth = depth) :
    StopsFor reasons (loop step machine) := by
  induction gas : machine.books.meter.remaining using Nat.strongRecOn
    generalizing machine with
  | ind gas ih =>
      by_cases running : machine.position < machine.tape.length
      · have stepped := stops machine level
        have onward := advances machine
        rw [loop_of_running running]
        cases ran : step.run machine with
        | error stop after => exact .error (stepped stop after ran)
        | ok halted after =>
            rw [ran] at onward
            cases halted with
            | some halt => exact .ok halt
            | none =>
                have lower := lowers _ _ _ ran
                simp only [if_pos lower]
                exact ih _ (gas ▸ lower) after (onward.depth.trans level) rfl
      · rw [loop_of_finished running]
        exact .ok _

/-- Enough levels may be nested below a machine if they reach the greatest depth. -/
theorem stopsFor_runLevels (levels : Nat) (machine : Machine)
    (bounded : maxDepth ≤ machine.depth + levels) :
    StopsFor reasons ((runLevels context levels).run machine) := by
  induction levels generalizing machine with
  | zero =>
      -- The depth is the greatest one here, so that nothing is nested any more.
      refine stopsFor_loop (advances_stepWith (advances_throw _) context)
        (fun _ _ _ => remaining_lt_of_stepWith (advances_throw _)) ?_ machine rfl
      intro other level
      refine stopsFor_stepWith fun callee deeper shallow => ?_
      omega
  | succ levels ih =>
      have advances := advances_runLevels context levels
      refine stopsFor_loop (advances_stepWith advances context)
        (fun _ _ _ => remaining_lt_of_stepWith advances) ?_ machine rfl
      intro other level
      refine stopsFor_stepWith fun callee deeper shallow => ih callee ?_
      omega

theorem stopsFor_run (machine : Machine) :
    StopsFor reasons ((run context).run machine) :=
  stopsFor_runLevels _ machine (by omega)

/-- Every fault of a run comes up in its context. -/
theorem arises_of_run {cause : Fault} {after : Machine}
    (failed : (run context).run machine = .error (.fault cause) after) :
    cause.Arises context machine.books.meter.expired := by
  have same := sameTerms_run context machine
  rw [failed, Runs.final_error] at same
  have punctual : after.books.meter.expired = machine.books.meter.expired :=
    Meter.expired_eq_of_terms same
  have stops : StopsFor (.arising context) _ := stopsFor_run machine
  obtain ⟨_, ⟨⟩, arises⟩ := stops _ after failed
  exact punctual ▸ arises

/-! ### Authorisation -/

variable {program : Program} {arguments : List Bytes} {books after : Books}

/-- A check stops because its program does, or for a fault that programs can cause. -/
theorem stopsFor_authorise {stop : Stop}
    (failed : (authorise context program arguments).run books = .error stop after) :
    reasons.allows stop after.meter.expired := by
  change authorise context program arguments books = _ at failed
  unfold authorise at failed
  split at failed
  · cases failed
    exact reasons.plain rfl _
  · split at failed
    · cases failed
      exact reasons.plain rfl _
    · have stops : StopsFor reasons ((runOn context arguments).run (start
          ((Template.expand? program.code).getD program.code) program.version books)) :=
        (stopsFor_pushAll arguments).bind fun _ machine _ => stopsFor_run machine
      simp only at failed
      split at failed
      · rename_i stop machine ran
        cases failed
        exact stops stop machine ran
      · rename_i halt machine ran
        cases halt with
        | success => cases failed
        | returned | falseResult =>
            cases failed
            exact reasons.plain rfl _

/-- Every fault of a program that is run to authorise something comes up in its
context. -/
theorem arises_of_authorise {cause : Fault}
    (failed : (authorise context program arguments).run books = .error (.fault cause) after) :
    cause.Arises context books.meter.expired := by
  have same := terms_authorise context program arguments books
  rw [failed, Runs.final_error] at same
  have punctual : after.meter.expired = books.meter.expired :=
    Meter.expired_eq_of_terms same
  have stops : (Reasons.arising context).allows _ _ := stopsFor_authorise failed
  obtain ⟨_, ⟨⟩, arises⟩ := stops
  exact punctual ▸ arises

end Machine

end EntryLedger
