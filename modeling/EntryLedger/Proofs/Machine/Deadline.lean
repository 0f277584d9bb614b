import EntryLedger.Proofs.Machine.Boundary
import EntryLedger.Proofs.Machine.Likeness

/-!
# Runs after the deadline

A meter looks at the deadline after every 64th charge.  A run whose deadline has
passed is therefore the same as one that has time, up to its 64th charge, wherever that
is made, and is cancelled there.  Being cancelled is no fault of a program: no predicate
turns it into a verdict.
-/

namespace EntryLedger

/-- The same meter after its deadline. -/
def Meter.overdue (meter : Meter) : Meter :=
  { meter with expired := true }

/-- The same books with an overdue meter. -/
def Books.overdue (books : Books) : Books :=
  { books with meter := books.meter.overdue }

namespace Machine

/-- The same machine after the deadline. -/
def overdue (machine : Machine) : Machine :=
  { machine with books := machine.books.overdue }

/-- The books of an overdue run, and those of the run with time that has done the same.
No look at the deadline is behind them yet. -/
structure Overdue (left right : Books) : Prop where
  same : left = right.overdue
  timely : right.meter.expired = false
  early : right.meter.charges < Meter.deadlineInterval

/-- A run that was cancelled, and one with time that has made enough charges since for a
look at the deadline. -/
structure Cancelled (stop : Stop) (left right : Books) : Prop where
  stop : stop = .fault .deadlineExceeded
  looked : Meter.deadlineInterval ≤ right.meter.charges

theorem Overdue.charge {left right : Books} (alike : Overdue left right) (amount : Nat) :
    Relates Overdue Cancelled (chargeBooks amount left) (chargeBooks amount right) := by
  obtain ⟨rfl, timely, early⟩ := alike
  have inTime : ¬ late right.meter := by
    rintro ⟨expired, -⟩
    cases timely.symm.trans expired
  by_cases poor : right.meter.remaining < amount
  · rw [chargeBooks, chargeBooks, if_pos (show right.overdue.meter.remaining < amount from poor),
      if_pos poor]
    exact .error _ { same := rfl, timely := timely, early := early }
  · rw [chargeBooks, chargeBooks,
      if_neg (show ¬ right.overdue.meter.remaining < amount from poor), if_neg poor,
      if_neg inTime]
    by_cases looks : (right.meter.charges + 1) % Meter.deadlineInterval = 0
    · -- The last charge before the look is the 64th one.
      rw [if_pos (show late right.overdue.meter from ⟨rfl, looks⟩)]
      refine .short { stop := rfl, looked := ?_ }
      exact Nat.le_of_dvd (Nat.succ_pos _) (Nat.dvd_of_mod_eq_zero looks)
    · rw [if_neg (show ¬ late right.overdue.meter from fun overdue => looks overdue.2)]
      refine .ok () { same := rfl, timely := timely, early := ?_ }
      have differs : right.meter.charges + 1 ≠ Meter.deadlineInterval := by
        rintro last
        rw [last, Nat.mod_self] at looks
        exact looks rfl
      exact Nat.lt_of_le_of_ne early differs

/-- Runs that are overdue and runs that have time. -/
def cancelling : Likeness where
  alike := Overdue
  short := Cancelled
  onward := fun cut precedes => {
    stop := cut.stop
    looked := Nat.le_trans cut.looked precedes.charges }
  contagious := fun cut => by
    rw [cut.stop]
    rfl
  spent := fun before after => by
    rw [before.same, after.same]
    rfl
  exhausted := fun alike => alike.same ▸ rfl
  traced := fun alike => alike.same ▸ rfl
  charge := Overdue.charge
  count := fun ⟨same, timely, early⟩ => ⟨same ▸ rfl, timely, early⟩
  entered := fun ⟨same, timely, early⟩ _ => ⟨same ▸ rfl, timely, early⟩
  asked := fun ⟨same, timely, early⟩ _ => ⟨same ▸ rfl, timely, early⟩
  finished := fun began alike _ _ _ _ => by
    obtain ⟨rfl, -, -⟩ := began
    obtain ⟨rfl, timely, early⟩ := alike
    exact { same := rfl, timely := timely, early := early }

/-- Run a program whose arguments are pushed first, on a meter of its own. -/
def runFrom (context : Context) (program : Bytes) (version : UInt64)
    (arguments : List Bytes) (traced : Bool) (meter : Meter) :
    EStateM.Result Stop Machine Halt :=
  (runOn context arguments).run (start program version (.ofMeter meter traced))

/-- The same end with another final state. -/
def endingIn {State Result : Type} (change : State → State) :
    EStateM.Result Stop State Result → EStateM.Result Stop State Result
  | .ok result after => .ok result (change after)
  | .error stop after => .error stop (change after)

/-- An action after the deadline is cancelled if the one that has time made enough charges
for a look at the deadline.  Otherwise it ends in the same way, and but for the deadline
in the same state. -/
structure OnlyCancels {State Result : Type} (charges : State → Nat) (delay : State → State)
    (overdue timely : EStateM.Result Stop State Result) : Prop where
  cancelled : Meter.deadlineInterval ≤ charges (Runs.final timely) →
    ∃ after, overdue = .error (.fault .deadlineExceeded) after
  same : charges (Runs.final timely) < Meter.deadlineInterval →
    overdue = endingIn delay timely

theorem OnlyCancels.of_relates {State Result : Type} {charges : State → Nat}
    {delay : State → State} {alike : State → State → Prop}
    {short : Stop → State → State → Prop} {overdue timely : EStateM.Result Stop State Result}
    (relates : Relates alike short overdue timely)
    (delays : ∀ left right, alike left right →
      left = delay right ∧ charges right < Meter.deadlineInterval)
    (cuts : ∀ stop left right, short stop left right →
      stop = .fault .deadlineExceeded ∧ Meter.deadlineInterval ≤ charges right) :
    OnlyCancels charges delay overdue timely := by
  cases relates with
  | ok result states =>
      obtain ⟨rfl, early⟩ := delays _ _ states
      exact ⟨fun looked => (Nat.not_lt_of_le looked early).elim, fun _ => rfl⟩
  | error stop states =>
      obtain ⟨rfl, early⟩ := delays _ _ states
      exact ⟨fun looked => (Nat.not_lt_of_le looked early).elim, fun _ => rfl⟩
  | short cut =>
      obtain ⟨rfl, looked⟩ := cuts _ _ _ cut
      exact ⟨fun _ => ⟨_, rfl⟩, fun early => (Nat.not_lt_of_le looked early).elim⟩

/-- What respects the likeness of overdue machines is cancelled at the 64th charge, or not
at all. -/
theorem onlyCancels_of_keeps {Result : Type} {action : Run Result}
    (keeps : cancelling.Keeps action) {machine : Machine}
    (timely : machine.books.meter.expired = false)
    (early : machine.books.meter.charges < Meter.deadlineInterval) :
    OnlyCancels (fun machine => machine.books.meter.charges) overdue
      (action.run machine.overdue) (action.run machine) := by
  have begun : cancelling.Alike machine.overdue machine :=
    .intro { same := rfl, timely := timely, early := early }
  apply OnlyCancels.of_relates (keeps.ends begun)
  · rintro later _ ⟨alike⟩
    exact ⟨by simp only [overdue, ← alike.same], alike.early⟩
  · rintro stop left right ⟨stopped, looked⟩
    exact ⟨stopped, looked⟩

theorem onlyCancels_run (context : Context) {machine : Machine}
    (timely : machine.books.meter.expired = false)
    (early : machine.books.meter.charges < Meter.deadlineInterval) :
    OnlyCancels (fun machine => machine.books.meter.charges) overdue
      ((run context).run machine.overdue) ((run context).run machine) :=
  onlyCancels_of_keeps (cancelling.keeps_run context) timely early

section Fresh

variable {meter : Meter} (timely : meter.expired = false) (fresh : meter.charges = 0)
include timely fresh

theorem onlyCancels_runFrom (context : Context) (program : Bytes) (version : UInt64)
    (arguments : List Bytes) (traced : Bool) :
    OnlyCancels (fun machine => machine.books.meter.charges) overdue
      (runFrom context program version arguments traced meter.overdue)
      (runFrom context program version arguments traced meter) := by
  have early : (start program version (.ofMeter meter traced)).books.meter.charges <
      Meter.deadlineInterval :=
    fresh ▸ Nat.succ_pos _
  exact onlyCancels_of_keeps (cancelling.keeps_runOn context arguments) timely early

theorem onlyCancels_authorise (context : Context) (program : Program)
    (arguments : List Bytes) (traced : Bool) :
    OnlyCancels (fun books => books.meter.charges) Books.overdue
      ((authorise context program arguments).run (.ofMeter meter.overdue traced))
      ((authorise context program arguments).run (.ofMeter meter traced)) := by
  have begun : Overdue (.ofMeter meter.overdue traced) (.ofMeter meter traced) :=
    { same := rfl, timely := timely, early := fresh ▸ Nat.succ_pos _ }
  apply OnlyCancels.of_relates (cancelling.relates_authorise context program arguments begun)
  · rintro left right ⟨same, -, early⟩
    exact ⟨same, early⟩
  · rintro stop left right ⟨stopped, looked⟩
    exact ⟨stopped, looked⟩

end Fresh

/-- A predicate that was cancelled cancels the program that called it. -/
theorem Calls.cancelled {context : Context} {machine caller callee : Machine} {call : Call}
    (calls : Calls machine call caller)
    (ended : (run context).run (call.machine caller) =
      .error (.fault .deadlineExceeded) callee) :
    ∃ after, (step context).run machine = .error (.fault .deadlineExceeded) after := by
  obtain ⟨instruction, -, stepped⟩ := calls.run_stepWith (run context)
  rw [run_step, stepped, ended]
  exact ⟨_, rfl⟩

end Machine

end EntryLedger
