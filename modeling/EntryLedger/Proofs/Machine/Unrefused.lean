import EntryLedger.Proofs.Machine.Likeness
import EntryLedger.Proofs.Machine.Solvent

/-!
# Runs that are refused nothing

A run that is refused nothing is the same run on every other meter that has the gas that
it spends, whatever had been used of either meter before.  It can therefore be told on a
meter that has as much gas as one likes, where a program is followed instruction by
instruction and nothing is refused.
-/

namespace EntryLedger

/-- Books of two runs that have spent the same, the second of which has no less left.
The first run began when `ahead` was used of its meter, and the second one when `behind`
was used. -/
structure Enriched (ahead behind : Nat) (left right : Books) : Prop where
  used : left.meter.used + behind = right.meter.used + ahead
  remaining : left.meter.remaining ≤ right.meter.remaining
  exhausted : left.meter.exhausted = right.meter.exhausted
  traced : left.traced = right.traced
  timely : left.meter.expired = false ∧ right.meter.expired = false

/-- A run that was refused a charge, and another one that has spent more than the first
one had. -/
structure Outspent (ahead behind : Nat) (stop : Stop) (left right : Books) : Prop where
  stop : stop = .fault .runLimitExceeded
  exhausted : left.meter.exhausted = true
  spent : left.meter.used + left.meter.remaining + behind < right.meter.used + ahead

section Books

variable {ahead behind : Nat} {left right : Books}

/-- Notes and counts of instructions do not bear on the meters. -/
theorem Enriched.noted (alike : Enriched ahead behind left right) (journal journal' : Journal)
    (started started' : Nat) :
    Enriched ahead behind { left with journal := journal, started := started }
      { right with journal := journal', started := started' } where
  used := alike.used
  remaining := alike.remaining
  exhausted := alike.exhausted
  traced := alike.traced
  timely := alike.timely

theorem Enriched.charge (alike : Enriched ahead behind left right) (amount : Nat) :
    Relates (Enriched ahead behind) (Outspent ahead behind) (Machine.chargeBooks amount left)
      (Machine.chargeBooks amount right) := by
  have used := alike.used
  have remaining := alike.remaining
  have early {books : Books} (timely : books.meter.expired = false) :
      ¬ Machine.late books.meter := by
    rintro ⟨overdue, -⟩
    cases timely.symm.trans overdue
  unfold Machine.chargeBooks
  rw [if_neg (early alike.timely.1), if_neg (early alike.timely.2)]
  by_cases poor : left.meter.remaining < amount
  · rw [if_pos poor]
    by_cases poorToo : right.meter.remaining < amount
    · rw [if_pos poorToo]
      exact .error _ {
        used := used
        remaining := remaining
        exhausted := rfl
        traced := alike.traced
        timely := alike.timely }
    · -- Only the second meter pays, and what it has paid is more than the first one had.
      rw [if_neg poorToo]
      refine .short { stop := rfl, exhausted := rfl, spent := ?_ }
      simp only [Runs.final_ok, Machine.paid]
      omega
  · rw [if_neg poor, if_neg (by omega)]
    refine .ok () {
      used := ?_
      remaining := Nat.sub_le_sub_right remaining amount
      exhausted := alike.exhausted
      traced := alike.traced
      timely := alike.timely }
    simp only [Machine.paid]
    omega

end Books

/-- Runs of which the second one has at least as much gas as the first one. -/
def enriching (ahead behind : Nat) : Likeness where
  alike := Enriched ahead behind
  short := Outspent ahead behind
  onward := fun cut precedes => {
    stop := cut.stop
    exhausted := cut.exhausted
    spent := Nat.lt_of_lt_of_le cut.spent (Nat.add_le_add_right precedes.used ahead) }
  contagious := fun cut => by
    rw [cut.stop, cut.exhausted]
    rfl
  spent := fun before after => by
    have began := before.used
    have ended := after.used
    omega
  exhausted := Enriched.exhausted
  traced := Enriched.traced
  charge := Enriched.charge
  count := fun alike => alike.noted _ _ _ _
  entered := fun alike _ => alike.noted _ _ _ _
  asked := fun alike _ => alike.noted _ _ _ _
  finished := fun _ alike _ _ _ _ => alike.noted _ _ _ _

namespace Machine

/-! ### Two runs -/

/-- Two runs that have ended in the same way and spent the same. -/
structure Agree (own other : Books) (ended reference : EStateM.Result Stop Machine Halt) :
    Prop where
  outcome : outcomeOf ended = outcomeOf reference
  exhausted : (Runs.final ended).books.meter.exhausted =
    (Runs.final reference).books.meter.exhausted
  spent : (Runs.final ended).books.meter.used + other.meter.used =
    (Runs.final reference).books.meter.used + own.meter.used

variable {own other : Books} {ended reference : EStateM.Result Stop Machine Halt}

theorem Agree.symm (agree : Agree own other ended reference) :
    Agree other own reference ended where
  outcome := agree.outcome.symm
  exhausted := agree.exhausted.symm
  spent := agree.spent.symm

section Runs

variable (context : Context) (machine : Machine) (traced : own.traced = other.traced)
  (timely : own.meter.expired = false) (timely' : other.meter.expired = false)
  (fresh : own.meter.exhausted = false) (fresh' : other.meter.exhausted = false)
include traced timely timely' fresh fresh'

/-- Two runs agree unless the one with less gas is refused a charge. -/
theorem agree_or_outspent {action : Run Halt}
    (keeps : (enriching own.meter.used other.meter.used).Keeps action)
    (le : own.meter.remaining ≤ other.meter.remaining) :
    let ended := action.run { machine with books := own }
    let reference := action.run { machine with books := other }
    Agree own other ended reference ∨ ∃ stop, Outspent own.meter.used other.meter.used stop
      (Runs.final ended).books (Runs.final reference).books := by
  intro ended reference
  have started : (enriching own.meter.used other.meter.used).Alike
      { machine with books := own } { machine with books := other } :=
    .intro {
      used := Nat.add_comm _ _
      remaining := le
      exhausted := fresh.trans fresh'.symm
      traced := traced
      timely := ⟨timely, timely'⟩ }
  have ends : (enriching own.meter.used other.meter.used).Ends ended reference :=
    keeps.ends started
  clear_value ended reference
  cases ends with
  | ok halt states =>
      obtain ⟨alike⟩ := states
      exact .inl { outcome := rfl, exhausted := alike.exhausted, spent := alike.used }
  | error stop states =>
      obtain ⟨alike⟩ := states
      exact .inl { outcome := rfl, exhausted := alike.exhausted, spent := alike.used }
  | @short stop _ _ cut => exact .inr ⟨stop, cut⟩

/-- A run that is refused nothing agrees with the run on any other books whose meter has
the gas for it. -/
theorem agree_of_unrefused :
    let ended := (run context).run { machine with books := own }
    let reference := (run context).run { machine with books := other }
    (Runs.final reference).books.meter.exhausted = false →
      (Runs.final reference).books.meter.used - other.meter.used ≤ own.meter.remaining →
      Agree own other ended reference := by
  intro ended reference unrefused enough
  have course : own.Precedes (Runs.final ended).books :=
    (advances_run context { machine with books := own }).books
  -- The run on the smaller meter is the one that may be refused something.
  rcases Nat.le_total own.meter.remaining other.meter.remaining with less | more
  · have ends : Agree own other ended reference ∨ _ :=
      agree_or_outspent machine traced timely timely' fresh fresh'
        (Likeness.keeps_run context) less
    rcases ends with agree | ⟨stop, cut⟩
    · exact agree
    · have total := course.total
      have spent : (Runs.final ended).books.meter.used + (Runs.final ended).books.meter.remaining +
          other.meter.used < (Runs.final reference).books.meter.used + own.meter.used :=
        cut.spent
      omega
  · have ends : Agree other own reference ended ∨ _ :=
      agree_or_outspent machine traced.symm timely' timely fresh' fresh
        (Likeness.keeps_run context) more
    rcases ends with agree | ⟨stop, cut⟩
    · exact agree.symm
    · cases unrefused.symm.trans cut.exhausted

end Runs

/-! ### Solvent machines -/

/-- A machine that nothing but its meter limits, which has refused nothing and has some
gas left. -/
structure Solvent (gas : Nat) (machine : Machine) : Prop where
  timely : machine.books.meter.expired = false
  unrefused : machine.books.meter.exhausted = false
  unlimited : machine.allowance = none
  enough : gas ≤ machine.books.meter.remaining

variable {Result : Type} {context : Context} {gas more position later : Nat}
  {machine : Machine} {stack below : List Bytes} {outcome : Except Stop Halt}

theorem Solvent.mono (solvent : machine.Solvent more) (le : gas ≤ more) :
    machine.Solvent gas where
  timely := solvent.timely
  unrefused := solvent.unrefused
  unlimited := solvent.unlimited
  enough := Nat.le_trans le solvent.enough

/-- A solvent machine is refused nothing and keeps the gas that it had beyond. -/
theorem Yields.of_solvent {action : Run Result} {outcome : Except Stop Result}
    (yields : Yields gas action machine outcome position stack)
    (solvent : machine.Solvent (gas + more)) : ∃ books,
    action.run machine = ending outcome (machine.arranged position stack books none) ∧
      books.traced = machine.books.traced ∧
      (machine.arranged position stack books none).Solvent more := by
  have enough := solvent.enough
  have credit : machine.credit = machine.books.meter.remaining := by
    rw [Machine.credit, solvent.unlimited, Option.elim_none]
  cases yields with
  | late expired => cases solvent.timely.symm.trans expired
  | refused poor ran => omega
  | met books allowance ran steady afforded =>
      have limited : allowance.isSome = machine.allowance.isSome := steady.limited
      rw [solvent.unlimited, Option.isSome_none, Option.isSome_eq_false_iff,
        Option.isNone_iff_eq_none] at limited
      subst limited
      have left : (machine.arranged position stack books none).credit =
          books.meter.remaining :=
        rfl
      exact ⟨books, ran, steady.traced, {
        timely := steady.expired.trans solvent.timely
        unrefused := steady.exhausted.trans solvent.unrefused
        unlimited := rfl
        enough := by
          change more ≤ books.meter.remaining
          omega }⟩

/-- What a run that is refused nothing leaves is as solvent as the gas that it did not
need. -/
theorem solvent_of_agree (context : Context) (machine : Machine) {own other : Books}
    (agree : Agree own other ((run context).run { machine with books := own })
      ((run context).run { machine with books := other }))
    (timely : own.meter.expired = false)
    (unrefused : (Runs.final ((run context).run
      { machine with books := other })).books.meter.exhausted = false)
    (enough : (Runs.final ((run context).run { machine with books := other })).books.meter.used -
      other.meter.used + gas ≤ own.meter.remaining) (caller : Machine) :
    (caller.arranged position stack (Runs.final ((run context).run
      { machine with books := own })).books none).Solvent gas where
  timely :=
    (Meter.expired_eq_of_terms (sameTerms_run context { machine with books := own })).trans timely
  unrefused := agree.exhausted.trans unrefused
  unlimited := rfl
  enough := by
    have course : own.Precedes (Runs.final ((run context).run
        { machine with books := own })).books :=
      (advances_run context { machine with books := own }).books
    have reference : other.Precedes (Runs.final ((run context).run
        { machine with books := other })).books :=
      (advances_run context { machine with books := other }).books
    have total := course.total
    have used := reference.used
    have spent := agree.spent
    change gas ≤ (Runs.final ((run context).run
      { machine with books := own })).books.meter.remaining
    omega

/-- An action ends like this if its machine has the gas for it, and leaves the gas that
there was beyond. -/
def Manages (gas : Nat) (action : Run Result) (machine : Machine)
    (outcome : Except Stop Result) : Prop :=
  ∀ more, machine.Solvent (gas + more) → ∃ after,
    action.run machine = ending outcome after ∧ after.Solvent more

theorem Yields.manages {action : Run Result} {outcome : Except Stop Result}
    (yields : Yields gas action machine outcome position stack) :
    Manages gas action machine outcome := by
  intro more solvent
  obtain ⟨books, ran, -, left⟩ := yields.of_solvent solvent
  exact ⟨_, ran, left⟩

theorem Manages.mono {action : Run Result} {outcome : Except Stop Result}
    (manages : Manages gas action machine outcome) (le : gas ≤ more) :
    Manages more action machine outcome := by
  intro beyond solvent
  have split : more + beyond = gas + (more - gas + beyond) := by omega
  obtain ⟨after, ran, left⟩ := manages (more - gas + beyond) (split ▸ solvent)
  exact ⟨after, ran, left.mono (Nat.le_add_left beyond _)⟩

/-- A run with enough gas comes to another place of its program. -/
def Attains (context : Context) (gas : Nat) (machine : Machine) (position : Nat)
    (stack : List Bytes) : Prop :=
  ∀ more, machine.Solvent (gas + more) → ∃ books,
    Reaches context machine (machine.arranged position stack books none) ∧
      books.traced = machine.books.traced ∧
      (machine.arranged position stack books none).Solvent more

namespace Attains

theorem here (books : Books) :
    Attains context 0 (machine.arranged position stack books none) position stack := by
  intro more solvent
  rw [Nat.zero_add] at solvent
  exact ⟨books, .start, rfl, solvent⟩

/-- A run that has come to some place takes a step from there. -/
theorem step (attains : Attains context gas machine position stack)
    (running : position < machine.tape.length)
    (stepped : ∀ books, Yields more (stepWith (run context) context)
      (machine.arranged position stack books none) (.ok none) later below) :
    Attains context (gas + more) machine later below := by
  intro beyond solvent
  rw [Nat.add_assoc] at solvent
  obtain ⟨books, reached, traced, left⟩ := attains _ solvent
  obtain ⟨books', ran, traced', left'⟩ := (stepped books).of_solvent left
  refine ⟨books', .step reached running ?_, traced'.trans traced, left'⟩
  rw [run_step, ran]
  rfl

theorem mono (attains : Attains context gas machine position stack) (le : gas ≤ more) :
    Attains context more machine position stack := by
  intro beyond solvent
  exact attains beyond (solvent.mono (Nat.add_le_add_right le beyond))

/-- A run that has come to some place ends as it does from there. -/
theorem manages (attains : Attains context gas machine position stack)
    (rest : ∀ books, books.traced = machine.books.traced → Manages more (run context)
      (machine.arranged position stack books none) outcome) :
    Manages (gas + more) (run context) machine outcome := by
  intro beyond solvent
  rw [Nat.add_assoc] at solvent
  obtain ⟨books, reached, traced, left⟩ := attains _ solvent
  obtain ⟨after, ran, left'⟩ := rest books traced _ left
  exact ⟨after, reached.run_eq.trans ran, left'⟩

end Attains

/-! ### Authorisation -/

section Authorisation

variable {context : Context} {program : Program} {arguments : List Bytes} {books : Books}
  {code : Bytes} {gas : Nat} {outcome : Except Stop Halt}
  (timely : books.meter.expired = false) (positive : program.version ≠ 0)
  (supported : program.version ≤ context.maxVersion)
  (short : program.code.length ≤ Instruction.maxLength)
  (expanded : (Template.expand? program.code).getD program.code = code)
include timely positive supported short expanded

/-- A check with the gas for its arguments comes to the start of its program and ends as
the program does from there. -/
theorem exists_start (fresh : books.meter.exhausted = false)
    (enough : held arguments + gas ≤ books.meter.remaining) : ∃ spent,
    let begun := (start code program.version books).arranged 0 arguments.reverse spent none
    let ended := (run context).run begun
    spent.traced = books.traced ∧ books.Precedes spent ∧ begun.Solvent gas ∧
      authorisation context program arguments books = ruling (outcomeOf ended) ∧
      Runs.final ((authorise context program arguments).run books) =
        (Runs.final ended).books := by
  have solvent : (start code program.version books).Solvent (held arguments + gas) := {
    timely := timely
    unrefused := fresh
    unlimited := rfl
    enough := enough }
  have pushed : Yields (held arguments) (pushAll arguments)
      (start code program.version books) (.ok ()) 0 (arguments.reverse ++ []) :=
    .of_takes (.pushAll arguments)
  rw [List.append_nil] at pushed
  obtain ⟨spent, pushing, traced, left⟩ := pushed.of_solvent solvent
  have course : books.Precedes spent := by
    have pushes := advances_pushAll arguments (start code program.version books)
    rw [pushing] at pushes
    exact (Books.Precedes.note books (.entered 0)).trans pushes.books
  have whole : (runOn context arguments).run (start code program.version books) =
      (run context).run
        ((start code program.version books).arranged 0 arguments.reverse spent none) := by
    rw [runOn, EStateM.run_bind, pushing]
    rfl
  have checked : authorisation context program arguments books = _ ∧ _ :=
    run_authorise positive supported short
  rw [expanded, whole] at checked
  exact ⟨spent, traced, course, left, checked⟩

/-- A check on a meter with the gas for it ends as its program does. -/
theorem authorisation_of_manages
    (followed : ∀ spent, spent.traced = books.traced → Manages gas (run context)
      ((start code program.version books).arranged 0 arguments.reverse spent none) outcome)
    (fresh : books.meter.exhausted = false)
    (enough : held arguments + gas ≤ books.meter.remaining) :
    authorisation context program arguments books = ruling outcome ∧
      (Runs.final ((authorise context program arguments).run books)).meter.exhausted = false := by
  have begun := exists_start timely positive supported short expanded fresh enough
  obtain ⟨spent, traced, -, left, ruled, final⟩ := begun
  obtain ⟨after, ran, ended⟩ := followed spent traced 0 left
  rw [ruled, final, ran]
  cases outcome with
  | ok halt => exact ⟨rfl, ended.unrefused⟩
  | error stop => exact ⟨rfl, ended.unrefused⟩

omit expanded in
/-- A check that is refused nothing ends in the same way on every meter with as much
gas. -/
theorem agree_authorise
    (unrefused : (Runs.final ((authorise context program arguments).run books)).meter.exhausted =
      false) {meter : Meter} (timely' : meter.expired = false) (fresh : meter.exhausted = false)
    (le : books.meter.remaining ≤ meter.remaining) :
    let richer := { books with meter := meter }
    let ended := (authorise context program arguments).run books
    let ended' := (authorise context program arguments).run richer
    authorisation context program arguments richer =
        authorisation context program arguments books ∧
      (Runs.final ended').meter.exhausted = false ∧
      (Runs.final ended).meter.used + meter.used =
        (Runs.final ended').meter.used + books.meter.used := by
  intro richer ended ended'
  have fresh' : books.meter.exhausted = false :=
    (precedes_authorise context program arguments books).unrefused unrefused
  have checked : authorisation context program arguments books = _ ∧ _ :=
    run_authorise positive supported short
  have checked' : authorisation context program arguments richer = _ ∧ _ :=
    run_authorise positive supported short
  obtain ⟨ruled, final⟩ := checked
  obtain ⟨ruled', final'⟩ := checked'
  rw [final] at unrefused
  let code := (Template.expand? program.code).getD program.code
  have traced : (start code program.version books).books.traced =
      (start code program.version richer).books.traced :=
    rfl
  have ends : Agree (start code program.version books).books
      (start code program.version richer).books _ _ ∨ _ :=
    agree_or_outspent (start code program.version books) traced timely timely' fresh' fresh
      (Likeness.keeps_runOn context arguments) le
  rcases ends with agree | ⟨stop, cut⟩
  · refine ⟨?_, ?_, ?_⟩
    · rw [ruled, ruled', agree.outcome]
      rfl
    · rw [final']
      exact agree.exhausted.symm.trans unrefused
    · rw [final, final']
      exact agree.spent
  · cases unrefused.symm.trans cut.exhausted

/-- A check that is refused nothing ends as its program does on a meter with the gas for
it. -/
theorem authorisation_of_unrefused
    (followed : ∀ spent, spent.traced = books.traced → Manages gas (run context)
      ((start code program.version books).arranged 0 arguments.reverse spent none) outcome)
    (unrefused : (Runs.final ((authorise context program arguments).run books)).meter.exhausted =
      false) :
    authorisation context program arguments books = ruling outcome := by
  let meter : Meter := { books.meter with
    exhausted := false
    remaining := books.meter.remaining + (held arguments + gas) }
  have timely' : meter.expired = false := timely
  have agrees := agree_authorise timely positive supported short unrefused timely' rfl
    (Nat.le_add_right _ _)
  have checked : authorisation context program arguments { books with meter := meter } =
      ruling outcome ∧ _ :=
    authorisation_of_manages timely' positive supported short expanded followed rfl
      (Nat.le_add_left _ _)
  exact agrees.1.symm.trans checked.1

end Authorisation

end Machine

end EntryLedger
