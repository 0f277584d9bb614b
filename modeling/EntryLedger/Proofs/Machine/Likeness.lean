import EntryLedger.Proofs.Machine.Course

/-!
# Runs that are alike

Two runs of one program on different books do the same until one of them is cut
short by its books.  A likeness says which books correspond and what is known
once the first run was cut short.  If charges and notes respect it, so does
everything that a machine does: the cases of all operations are gone through
here once, for every likeness.
-/

namespace EntryLedger

/-- The ways in which two runs may have ended: alike, or with the first one
cut short. -/
inductive Relates {State Result : Type} (alike : State → State → Prop)
    (short : Stop → State → State → Prop) :
    EStateM.Result Stop State Result → EStateM.Result Stop State Result → Prop
  | ok (result : Result) {left right : State} (states : alike left right) :
      Relates alike short (.ok result left) (.ok result right)
  | error (stop : Stop) {left right : State} (states : alike left right) :
      Relates alike short (.error stop left) (.error stop right)
  | short {stop : Stop} {left : State} {other : EStateM.Result Stop State Result}
      (cut : short stop left (Runs.final other)) :
      Relates alike short (.error stop left) other

/-- A correspondence of books that charges and notes respect. -/
structure Likeness where
  /-- The books of two runs that have done the same. -/
  alike : Books → Books → Prop
  /-- Why the first run was cut short, its books, and the books that the second
  run has come to since. -/
  short : Stop → Books → Books → Prop
  onward : ∀ {stop left right later}, short stop left right → right.Precedes later →
    short stop left later
  /-- What cuts a nested run short stops its caller as well. -/
  contagious : ∀ {stop left right}, short stop left right →
    Machine.verdictOf left.meter.exhausted (.error stop) = .error stop
  /-- What two runs spend between two places is the same. -/
  spent : ∀ {before before' after after'}, alike before before' → alike after after' →
    after.meter.used - before.meter.used = after'.meter.used - before'.meter.used
  exhausted : ∀ {left right}, alike left right →
    left.meter.exhausted = right.meter.exhausted
  traced : ∀ {left right}, alike left right → left.traced = right.traced
  charge : ∀ {left right}, alike left right → ∀ amount,
    Relates alike short (Machine.chargeBooks amount left)
      (Machine.chargeBooks amount right)
  count : ∀ {left right}, alike left right →
    alike { left with started := left.started + 1 }
      { right with started := right.started + 1 }
  entered : ∀ {left right}, alike left right → ∀ depth,
    alike { left with journal := .entered depth :: left.journal }
      { right with journal := .entered depth :: right.journal }
  asked : ∀ {left right}, alike left right → ∀ query,
    alike { left with journal := .asked query :: left.journal }
      { right with journal := .asked query :: right.journal }
  finished : ∀ {before before' left right}, alike before before' → alike left right →
    ∀ depth position opcode stack,
      alike
        { left with journal := .finished {
            depth := depth, position := position, opcode := opcode
            gasBefore := before.meter.remaining, gasAfter := left.meter.remaining
            stack := stack } :: left.journal }
        { right with journal := .finished {
            depth := depth, position := position, opcode := opcode
            gasBefore := before'.meter.remaining, gasAfter := right.meter.remaining
            stack := stack } :: right.journal }

namespace Likeness

open Machine

variable {likeness : Likeness} {Result Next : Type}

/-- Machines that differ at most in their books, which are alike. -/
inductive Alike (likeness : Likeness) (machine : Machine) : Machine → Prop
  | intro {books : Books} (alike : likeness.alike machine.books books) :
      Alike likeness machine { machine with books := books }

/-- Runs of machines that end alike, or with the first one cut short. -/
abbrev Ends (likeness : Likeness) :
    EStateM.Result Stop Machine Result → EStateM.Result Stop Machine Result → Prop :=
  Relates likeness.Alike fun stop left right => likeness.short stop left.books right.books

/-- An action that ends alike on machines that are alike. -/
structure Keeps (likeness : Likeness) (action : Run Result) : Prop where
  advances : Advances action
  ends : ∀ {left right}, likeness.Alike left right →
    likeness.Ends (action.run left) (action.run right)

/-- Once the first run was cut short, the second one may go on as it likes. -/
theorem Ends.bind {action action' : Run Result} {next next' : Result → Run Next}
    {left right : Machine}
    (first : likeness.Ends (action.run left) (action'.run right))
    (rest : ∀ result left right, likeness.Alike left right →
      likeness.Ends ((next result).run left) ((next' result).run right))
    (advances : ∀ result, Advances (next' result)) :
    likeness.Ends ((action >>= next).run left) ((action' >>= next').run right) := by
  rw [EStateM.run_bind, EStateM.run_bind]
  generalize action.run left = ended at first ⊢
  generalize action'.run right = ended' at first ⊢
  cases first with
  | ok result states => exact rest result _ _ states
  | error stop states => exact .error stop states
  | short cut =>
      refine .short ?_
      cases ended' with
      | ok result middle => exact likeness.onward cut (advances result middle).books
      | error stop middle => exact cut

theorem Keeps.bind {action : Run Result} {next : Result → Run Next}
    (first : likeness.Keeps action) (rest : ∀ result, likeness.Keeps (next result)) :
    likeness.Keeps (action >>= next) where
  advances := first.advances.bind fun result => (rest result).advances
  ends := fun states =>
    (first.ends states).bind (fun result _ _ => (rest result).ends)
      fun result => (rest result).advances

theorem keeps_pure (result : Result) : likeness.Keeps (pure result) where
  advances := advances_pure result
  ends := .ok result

theorem keeps_throw (stop : Stop) : likeness.Keeps (throw stop : Run Result) where
  advances := advances_throw stop
  ends := .error stop

/-- What is read of a machine besides its books is the same on both sides. -/
theorem keeps_get_bind {next : Machine → Run Next}
    (same : ∀ machine books, next { machine with books := books } = next machine)
    (rest : ∀ machine, likeness.Keeps (next machine)) :
    likeness.Keeps (get >>= next) where
  advances := advances_get.bind fun machine => (rest machine).advances
  ends := by
    rintro machine _ ⟨alike⟩
    rw [EStateM.run_bind, EStateM.run_bind, EStateM.run_get, EStateM.run_get]
    simp only [same]
    exact (rest machine).ends (.intro alike)

/-- A change of a machine that neither reads nor writes its books. -/
theorem keeps_modify {change : Machine → Machine}
    (books : ∀ machine, (change machine).books = machine.books)
    (depth : ∀ machine, (change machine).depth = machine.depth)
    (other : ∀ machine books,
      change { machine with books := books } = { change machine with books := books }) :
    likeness.Keeps (modify change) where
  advances := advances_modify books depth
  ends := by
    rintro machine _ @⟨shared, alike⟩
    rw [EStateM.run_modify, EStateM.run_modify, other machine shared]
    exact .ok _ (.intro (books machine ▸ alike))

theorem keeps_attempt (result : Except Fault Result) : likeness.Keeps (attempt result) := by
  cases result with
  | error cause => exact keeps_throw _
  | ok value => exact keeps_pure value

theorem keeps_charge (amount : Nat) : likeness.Keeps (Machine.charge amount) where
  advances := advances_charge amount
  ends := by
    -- The allowance is the same on both sides and is looked at first.
    rintro machine _ ⟨alike⟩
    rw [run_charge, run_charge]
    by_cases capped : machine.allowance.any (· < amount) = true
    · rw [if_pos capped, if_pos capped]
      exact .error _ (.intro alike)
    · rw [if_neg capped, if_neg capped]
      have charged := likeness.charge alike amount
      generalize chargeBooks amount machine.books = taken at charged ⊢
      generalize chargeBooks amount _ = taken' at charged ⊢
      cases charged with
      | ok result states => exact .ok () (.intro states)
      | error stop states => exact .error stop (.intro states)
      | short cut =>
          refine .short ?_
          cases taken' with
          | ok result books => exact cut
          | error stop books => exact cut

theorem keeps_push (item : Bytes) : likeness.Keeps (push item) :=
  (keeps_charge _).bind fun _ =>
    keeps_modify (fun _ => rfl) (fun _ => rfl) fun _ _ => rfl

theorem keeps_pushAll (items : List Bytes) : likeness.Keeps (pushAll items) := by
  induction items with
  | nil => exact keeps_pure ()
  | cons item items ih => exact (keeps_push item).bind fun _ => ih

theorem keeps_setStack (stack : List Bytes) : likeness.Keeps (setStack stack) :=
  keeps_modify (fun _ => rfl) (fun _ => rfl) fun _ _ => rfl

theorem keeps_ask (query : OutputQuery) : likeness.Keeps (note (.asked query)) where
  advances := advances_note _
  ends := by
    rintro machine _ ⟨alike⟩
    exact .ok () (.intro (likeness.asked alike query))

theorem keeps_countStart : likeness.Keeps countStart where
  advances := advances_countStart
  ends := by
    rintro machine _ ⟨alike⟩
    exact .ok () (.intro (likeness.count alike))

theorem keeps_settle (effect : StackEffect) : likeness.Keeps (settle effect) := by
  have toll : likeness.Keeps (payToll effect.toll) := by
    cases effect.toll with
    | none => exact keeps_pure ()
    | some toll => exact keeps_charge toll
  have query : likeness.Keeps (noteQuery effect.query) := by
    cases effect.query with
    | none => exact keeps_pure ()
    | some query => exact keeps_ask query
  have delivery : likeness.Keeps (deliver effect.outcome) := by
    cases effect.outcome with
    | ok items => exact keeps_pushAll items
    | error stop => exact keeps_throw stop
  rw [settle_eq]
  exact toll.bind fun _ => (keeps_setStack _).bind fun _ => query.bind fun _ => delivery

theorem keeps_pop : likeness.Keeps pop := by
  refine keeps_get_bind (fun machine books => rfl) fun machine => ?_
  split
  · rename_i item below _
    exact (keeps_setStack below).bind fun _ => keeps_pure item
  · exact keeps_throw _

theorem keeps_affect (effect : List Bytes → StackEffect) :
    likeness.Keeps (affect effect) :=
  keeps_get_bind (fun _ _ => rfl) fun machine =>
    (keeps_settle (effect machine.stack)).bind fun _ => keeps_pure _

theorem keeps_resume (verdict : Except Stop Bool) : likeness.Keeps (resume verdict) := by
  cases verdict with
  | ok succeeded => exact keeps_push _
  | error stop => exact keeps_throw stop

/-- A predicate that was cut short stops its caller; otherwise both callers go
on with the same verdict and the same allowance. -/
theorem keeps_checkPredicate {nested : Run Halt} (keeps : likeness.Keeps nested) :
    likeness.Keeps (checkPredicate nested) where
  advances := advances_checkPredicate keeps.advances
  ends := by
    rintro machine _ @⟨shared, alike⟩
    rw [run_checkPredicate, run_checkPredicate]
    by_cases deep : maxDepth ≤ machine.depth
    · rw [if_pos deep, if_pos deep]
      exact .error _ (.intro alike)
    · rw [if_neg deep, if_neg deep]
      cases read : Call.ofStack machine.stack with
      | error stop => exact .error stop (.intro alike)
      | ok call =>
          have entered : likeness.Alike (call.machine machine)
              (call.machine { machine with books := shared }) :=
            .intro (likeness.entered alike (machine.depth + 1))
          have ended := keeps.ends entered
          simp only
          generalize nested.run (call.machine machine) = inner at ended ⊢
          generalize nested.run (call.machine { machine with books := shared }) = inner'
            at ended ⊢
          -- The callers have spent the same, so that their allowances agree.
          have back {left right : Machine} (states : likeness.Alike left right) :
              likeness.Alike (call.caller machine left.books)
                (call.caller { machine with books := shared } right.books) := by
            obtain ⟨inside⟩ := states
            have same : call.caller { machine with books := shared } ‹Books› =
                { call.caller machine left.books with books := ‹Books› } := by
              simp only [Call.caller, likeness.spent alike inside]
            rw [same]
            exact .intro inside
          cases ended with
          | ok halt states =>
              obtain ⟨inside⟩ := id states
              simp only [Runs.final_ok, outcomeOf, ← likeness.exhausted inside]
              exact (keeps_resume _).ends (back states)
          | error stop states =>
              obtain ⟨inside⟩ := id states
              simp only [Runs.final_error, outcomeOf, ← likeness.exhausted inside]
              exact (keeps_resume _).ends (back states)
          | short cut =>
              simp only [Runs.final_error, outcomeOf, likeness.contagious cut]
              refine .short (likeness.onward cut ?_)
              exact (advances_resume _ (call.caller _ (Runs.final inner').books)).books

theorem keeps_execute {nested : Run Halt} (keeps : likeness.Keeps nested)
    (context : Context) (data : Bytes) (operation : Operation) :
    likeness.Keeps (execute nested context data operation) := by
  cases operation with
  | nop => exact keeps_pure _
  | fail => exact keeps_pure _
  | jump => exact (keeps_attempt _).bind fun _ => keeps_pure _
  | jumpIf =>
      refine (keeps_attempt _).bind fun target => keeps_pop.bind fun condition => ?_
      split
      · exact keeps_pure _
      · exact keeps_pure _
  | verify =>
      refine keeps_pop.bind fun condition => ?_
      split
      · exact keeps_pure _
      · exact keeps_throw _
  | toAlt =>
      refine keeps_pop.bind fun item =>
        Keeps.bind (keeps_modify ?_ ?_ ?_) fun _ => keeps_pure _
      · exact fun machine => rfl
      · exact fun machine => rfl
      · exact fun machine books => rfl
  | fromAlt =>
      refine ⟨advances_execute keeps.advances context data .fromAlt, ?_⟩
      rintro ⟨_, _, _, _, alt, _, _, _⟩ _ ⟨alike⟩
      simp only [execute, EStateM.run_bind, EStateM.run_get]
      cases alt with
      | nil => exact .error _ (.intro alike)
      | cons item rest => exact .ok _ (.intro alike)
  | checkPredicate => exact (keeps_checkPredicate keeps).bind fun _ => keeps_pure _
  | push => exact (keeps_push data).bind fun _ => keeps_pure _
  | shuffle shuffle => exact keeps_affect _
  | splice splice => exact keeps_affect _
  | bitwise bitwise => exact keeps_affect _
  | numeric numeric => exact keeps_affect _
  | attest attest => exact keeps_affect _
  | observe observe => exact keeps_affect _

theorem keeps_proceed (following : Nat) (next : Machine.Next) :
    likeness.Keeps (proceed following next) := by
  cases next with
  | halt => exact keeps_pure _
  | target position =>
      refine Keeps.bind (keeps_modify ?_ ?_ ?_) fun _ => keeps_pure _
      · exact fun machine => rfl
      · exact fun machine => rfl
      · exact fun machine books => rfl
  | following =>
      refine Keeps.bind (keeps_modify ?_ ?_ ?_) fun _ => keeps_pure _
      · exact fun machine => rfl
      · exact fun machine => rfl
      · exact fun machine books => rfl

/-- The notes of two steps that began alike and have done the same are alike. -/
theorem ends_record {opcode : Opcode} {before before' : Books} {left right : Machine}
    (began : likeness.alike before before') (states : likeness.Alike left right) :
    likeness.Ends ((record opcode before.meter.remaining).run left)
      ((record opcode before'.meter.remaining).run right) := by
  obtain @⟨shared, alike⟩ := states
  simp only [record, EStateM.run_bind, EStateM.run_get, ← likeness.traced alike]
  split
  · exact .ok () (.intro (likeness.finished began alike _ _ _ _))
  · exact .ok () (.intro alike)

theorem keeps_perform {nested : Run Halt} (keeps : likeness.Keeps nested)
    (context : Context) (machine : Machine) :
    likeness.Keeps (perform nested context machine) :=
  (keeps_attempt _).bind fun _ => (keeps_charge _).bind fun _ =>
    (keeps_attempt _).bind fun _ => keeps_countStart.bind fun _ =>
      (keeps_execute keeps context _ _).bind fun _ => keeps_pure _

theorem keeps_stepWith {nested : Run Halt} (keeps : likeness.Keeps nested)
    (context : Context) : likeness.Keeps (stepWith nested context) where
  advances := advances_stepWith keeps.advances context
  ends := by
    rintro machine _ @⟨shared, alike⟩
    rw [stepWith_eq, EStateM.run_bind, EStateM.run_bind, EStateM.run_get, EStateM.run_get]
    refine ((keeps_perform keeps context machine).ends (.intro alike)).bind ?_ ?_
    · intro performed left right states
      exact (ends_record alike states).bind
        (fun _ _ _ => (keeps_proceed _ performed.2).ends) fun _ => advances_proceed _ _
    · exact fun performed => advances_conclude _ performed

/-- What a loop comes to, it comes to after its first step. -/
theorem precedes_loop {step : Run (Option Halt)} (advances : Advances step)
    {machine : Machine} (running : machine.position < machine.tape.length) :
    (Runs.final (step.run machine)).Precedes (Runs.final (loop step machine)) := by
  rw [loop_of_running running]
  cases step.run machine with
  | error stop after => exact .refl after
  | ok halted after =>
      cases halted with
      | some halt => exact .refl after
      | none =>
          simp only
          split
          · exact advances_loop advances after
          · exact .refl after

/-- Loops whose steps use gas end alike if their steps do. -/
theorem keeps_loop {step : Run (Option Halt)} (keeps : likeness.Keeps step)
    (lowers : ∀ machine halted after, step.run machine = .ok halted after →
      after.books.meter.remaining < machine.books.meter.remaining) :
    likeness.Keeps (loop step) where
  advances := advances_loop keeps.advances
  ends := by
    intro machine right states
    change likeness.Ends (loop step machine) (loop step right)
    -- Both loops go on together, as steps use gas on either side; the induction
    -- is on what remains on the left.
    induction gas : machine.books.meter.remaining using Nat.strongRecOn
      generalizing machine right with
    | ind gas ih =>
        obtain @⟨shared, alike⟩ := states
        by_cases running : machine.position < machine.tape.length
        · have stepped := keeps.ends (Alike.intro alike)
          have later := precedes_loop keeps.advances
            (show Machine.position { machine with books := shared } <
              (Machine.tape { machine with books := shared }).length from running)
          rw [loop_of_running running]
          cases ran : step.run machine with
          | error stop after =>
              rw [ran] at stepped
              generalize ran' : step.run { machine with books := shared } = ended'
                at stepped later
              cases stepped with
              | error _ states =>
                  rw [loop_of_running (by exact running), ran']
                  exact .error stop states
              | short cut => exact .short (likeness.onward cut later.books)
          | ok halted after =>
              rw [ran] at stepped
              generalize ran' : step.run { machine with books := shared } = ended' at stepped
              cases stepped with
              | ok _ states =>
                  rw [loop_of_running (by exact running), ran']
                  cases halted with
                  | some halt => exact .ok halt states
                  | none =>
                      have lower := lowers _ _ _ ran
                      simp only [if_pos lower, if_pos (lowers _ _ _ ran')]
                      exact ih _ (gas ▸ lower) states rfl
        · rw [loop_of_finished running, loop_of_finished (by exact running)]
          exact .ok _ (.intro alike)

theorem keeps_runLevels (context : Context) (levels : Nat) :
    likeness.Keeps (runLevels context levels) := by
  induction levels with
  | zero =>
      exact keeps_loop (keeps_stepWith (keeps_throw _) context) fun _ _ _ =>
        remaining_lt_of_stepWith (advances_throw _)
  | succ levels ih =>
      exact keeps_loop (keeps_stepWith ih context) fun _ _ _ =>
        remaining_lt_of_stepWith ih.advances

/-- Runs of one program on books that are alike end alike, or the first one is
cut short. -/
theorem keeps_run (context : Context) : likeness.Keeps (run context) where
  advances := advances_run context
  ends := by
    rintro machine _ ⟨alike⟩
    exact (keeps_runLevels context (maxDepth - machine.depth)).ends (.intro alike)

theorem keeps_runOn (context : Context) (arguments : List Bytes) :
    likeness.Keeps (runOn context arguments) :=
  (keeps_pushAll arguments).bind fun _ => keeps_run context

/-- Checks of one program on books that are alike end alike, or the first one is cut
short. -/
theorem relates_authorise (context : Context) (program : Program) (arguments : List Bytes)
    {books books' : Books} (alike : likeness.alike books books') :
    Relates likeness.alike likeness.short ((authorise context program arguments).run books)
      ((authorise context program arguments).run books') := by
  change Relates _ _ (authorise context program arguments books)
    (authorise context program arguments books')
  unfold authorise
  split
  · exact .error _ alike
  · split
    · exact .error _ alike
    · let code := (Template.expand? program.code).getD program.code
      have begun : likeness.Alike (start code program.version books)
          (start code program.version books') :=
        .intro (likeness.entered alike 0)
      have ends := (likeness.keeps_runOn context arguments).ends begun
      simp only
      generalize (runOn context arguments).run (start code program.version books) = ended
        at ends ⊢
      generalize (runOn context arguments).run (start code program.version books') = ended'
        at ends ⊢
      cases ends with
      | ok halt states =>
          obtain ⟨inside⟩ := states
          cases halt with
          | success => exact .ok () inside
          | returned | falseResult => exact .error _ inside
      | error stop states =>
          obtain ⟨inside⟩ := states
          exact .error stop inside
      | short cut =>
          refine .short ?_
          cases ended' with
          | error stop after => exact cut
          | ok halt after =>
              cases halt with
              | success | returned | falseResult => exact cut

end Likeness

end EntryLedger
