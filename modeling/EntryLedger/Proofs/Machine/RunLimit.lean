import EntryLedger.Proofs.Checks
import EntryLedger.Proofs.Machine.Likeness

/-!
# Run limits

No instruction looks at the gas that is left.  A run on a meter with more gas
is therefore the same run with its gas columns shifted, until the smaller meter
refuses a charge that the larger one meets.  From there on the larger run has
used more than the smaller limit, whatever it does.
-/

namespace EntryLedger

/-- A meter that is granted more gas. -/
def Meter.raise (extra : Nat) (meter : Meter) : Meter :=
  { meter with
    budget := meter.budget + extra
    runLimit := meter.runLimit + extra
    remaining := meter.remaining + extra }

/-- A step that was taken with more gas. -/
def TraceStep.raise (extra : Nat) (step : TraceStep) : TraceStep :=
  { step with gasBefore := step.gasBefore + extra, gasAfter := step.gasAfter + extra }

def TraceStep.withoutGas (step : TraceStep) : TraceStep :=
  { step with gasBefore := 0, gasAfter := 0 }

/-- A change of the steps in an event. -/
def Event.mapStep (change : TraceStep → TraceStep) : Event → Event
  | .entered depth => .entered depth
  | .asked query => .asked query
  | .finished step => .finished (change step)

/-- Books that are granted more gas from the start. -/
def Books.raise (extra : Nat) (books : Books) : Books :=
  { books with
    meter := books.meter.raise extra
    journal := books.journal.map (Event.mapStep (TraceStep.raise extra)) }

def Journal.withoutGas (journal : Journal) : Journal :=
  journal.map (Event.mapStep TraceStep.withoutGas)

@[simp]
theorem Journal.withoutGas_raise (extra : Nat) (books : Books) :
    Journal.withoutGas (books.raise extra).journal = Journal.withoutGas books.journal := by
  unfold Journal.withoutGas Books.raise
  rw [List.map_map]
  apply List.map_congr_left
  intro event _
  cases event with
  | entered depth => rfl
  | asked query => rfl
  | finished step => rfl

/-- The steps of a journal without their gas columns are those of the journal
without gas columns. -/
theorem Journal.trace_withoutGas (journal : Journal) :
    Journal.trace (Journal.withoutGas journal) =
      journal.trace.map TraceStep.withoutGas := by
  unfold Journal.trace Journal.withoutGas
  rw [List.filterMap_map, List.map_reverse, List.map_filterMap]
  congr 2
  funext event
  cases event with
  | entered depth => rfl
  | asked query => rfl
  | finished step => rfl

namespace Machine

/-- A run whose meter refused a charge that a run with more gas met. -/
structure OutOfGas (stop : Stop) (left right : Books) : Prop where
  stop : stop = .fault .runLimitExceeded
  exhausted : left.meter.exhausted = true
  used : left.meter.used + left.meter.remaining < right.meter.used
  journal : Journal.withoutGas left.journal <:+ Journal.withoutGas right.journal

theorem relates_charge_raise (extra amount : Nat) (books : Books) :
    Relates (fun left right => right = left.raise extra) OutOfGas
      (chargeBooks amount books) (chargeBooks amount (books.raise extra)) := by
  have remaining : (books.raise extra).meter.remaining = books.meter.remaining + extra := rfl
  by_cases poor : books.meter.remaining < amount
  · by_cases poorToo : (books.raise extra).meter.remaining < amount
    · rw [chargeBooks, chargeBooks, if_pos poor, if_pos poorToo]
      exact .error _ rfl
    · -- Only the larger meter pays, and from then on it has used too much.
      rw [chargeBooks, if_pos poor]
      refine .short {
        stop := rfl
        exhausted := rfl
        used := ?_
        journal := ?_ }
      · rw [chargeBooks, if_neg poorToo]
        have lower : books.meter.used + books.meter.remaining < books.meter.used + amount := by
          omega
        split
        · exact lower
        · exact lower
      · rw [chargeBooks, if_neg poorToo]
        split
        · exact (Journal.withoutGas_raise extra books).symm ▸ List.suffix_rfl
        · exact (Journal.withoutGas_raise extra books).symm ▸ List.suffix_rfl
  · have rich : ¬ (books.raise extra).meter.remaining < amount := by
      rw [remaining]
      omega
    have taken : paid (books.raise extra).meter amount = (paid books.meter amount).raise extra := by
      simp only [paid, Books.raise, Meter.raise]
      congr 1
      omega
    rw [chargeBooks, chargeBooks, if_neg poor, if_neg rich, taken]
    by_cases deadline : late books.meter
    · rw [if_pos deadline, if_pos (show late (books.raise extra).meter from deadline)]
      exact .error _ rfl
    · rw [if_neg deadline, if_neg (show ¬ late (books.raise extra).meter from deadline)]
      exact .ok () rfl

/-- Runs with and without extra gas. -/
def raising (extra : Nat) : Likeness where
  alike := fun left right => right = left.raise extra
  short := OutOfGas
  onward := fun cut precedes => {
    stop := cut.stop
    exhausted := cut.exhausted
    used := Nat.lt_of_lt_of_le cut.used precedes.used
    journal := cut.journal.trans (precedes.journal.map _) }
  contagious := fun cut => by
    rw [cut.stop, cut.exhausted]
    rfl
  spent := fun before after => before ▸ after ▸ rfl
  exhausted := fun alike => alike ▸ rfl
  traced := fun alike => alike ▸ rfl
  charge := fun alike amount => alike ▸ relates_charge_raise extra amount _
  count := fun alike => alike ▸ rfl
  entered := fun alike depth => alike ▸ rfl
  asked := fun alike query => alike ▸ rfl
  finished := fun began alike depth position opcode stack => by
    subst began alike
    rfl

theorem used_eq_of_raising {extra : Nat} {left right : Books}
    (alike : (raising extra).alike left right) : left.meter.used = right.meter.used := by
  subst alike
  rfl

/-- Start a program on a fresh meter with a limit, push arguments, and run to
the end. -/
def runUnder (limit : Nat) (context : Context) (program : Bytes) (version : UInt64)
    (arguments : List Bytes) (traced : Bool) : EStateM.Result Stop Machine Halt :=
  (runOn context arguments).run
    (start program version (.ofMeter (.flat limit) traced))

/-- The steps that a run has recorded, without their gas columns. -/
def stepsOf (machine : Machine) : List TraceStep :=
  machine.books.journal.trace.map TraceStep.withoutGas

/-- The gas that a run on a fresh meter uses is at most its limit. -/
theorem total_runUnder (limit : Nat) (context : Context) (program : Bytes)
    (version : UInt64) (arguments : List Bytes) (traced : Bool) :
    let meter := (Runs.final (runUnder limit context program version arguments traced)).books.meter
    meter.used + meter.remaining = limit := by
  have course := advances_runOn context arguments
    (start program version (.ofMeter (.flat limit) traced))
  have total := course.books.total
  simpa [runUnder, start, Books.ofMeter, Meter.flat] using total

theorem need_of_ends {extra limit : Nat} {ended reference : EStateM.Result Stop Machine Halt}
    (ends : (raising extra).Ends ended reference)
    (total : (Runs.final ended).books.meter.used +
      (Runs.final ended).books.meter.remaining = limit) :
    let need := (Runs.final reference).books.meter.used
    (need ≤ limit →
      outcomeOf ended = outcomeOf reference ∧
        (Runs.final ended).stack = (Runs.final reference).stack ∧
        (Runs.final ended).alt = (Runs.final reference).alt ∧
        (Runs.final ended).position = (Runs.final reference).position ∧
        (Runs.final ended).books.meter.used = need) ∧
      (limit < need →
        outcomeOf ended = .error (.fault .runLimitExceeded) ∧
          (Runs.final ended).books.meter.used ≤ limit ∧
          stepsOf (Runs.final ended) <+: stepsOf (Runs.final reference)) := by
  intro need
  have within : (Runs.final ended).books.meter.used ≤ limit := by omega
  cases ends with
  | ok halt states =>
      obtain ⟨alike⟩ := states
      have same := used_eq_of_raising alike
      simp only [Runs.final_ok] at within same
      have enough : need ≤ limit := by
        simp only [need, Runs.final_ok, ← same]
        exact within
      exact ⟨fun _ => ⟨rfl, rfl, rfl, rfl, same⟩, fun short => by omega⟩
  | error stop states =>
      obtain ⟨alike⟩ := states
      have same := used_eq_of_raising alike
      simp only [Runs.final_error] at within same
      have enough : need ≤ limit := by
        simp only [need, Runs.final_error, ← same]
        exact within
      exact ⟨fun _ => ⟨rfl, rfl, rfl, rfl, same⟩, fun short => by omega⟩
  | short cut =>
      have used := cut.used
      have short : limit < need := by
        rw [← total]
        exact used
      refine ⟨fun enough => by omega, fun _ => ⟨?_, within, ?_⟩⟩
      · rw [cut.stop]
        rfl
      · rw [stepsOf, stepsOf, ← Journal.trace_withoutGas, ← Journal.trace_withoutGas]
        exact (cut.journal.filterMap _).reverse

/-- What a run uses under one limit is exactly what it needs under every
smaller one: where that much is granted the smaller run is the same, and where
it is not, the smaller run is stopped for want of gas after the same steps. -/
theorem exact_gas_need (context : Context) (program : Bytes) (version : UInt64)
    (arguments : List Bytes) (traced : Bool) {limit larger : Nat} (le : limit ≤ larger) :
    let ended := runUnder limit context program version arguments traced
    let reference := runUnder larger context program version arguments traced
    let need := (Runs.final reference).books.meter.used
    (need ≤ limit →
      outcomeOf ended = outcomeOf reference ∧
        (Runs.final ended).stack = (Runs.final reference).stack ∧
        (Runs.final ended).alt = (Runs.final reference).alt ∧
        (Runs.final ended).position = (Runs.final reference).position ∧
        (Runs.final ended).books.meter.used = need) ∧
      (limit < need →
        outcomeOf ended = .error (.fault .runLimitExceeded) ∧
          (Runs.final ended).books.meter.used ≤ limit ∧
          stepsOf (Runs.final ended) <+: stepsOf (Runs.final reference)) := by
  obtain ⟨extra, rfl⟩ := Nat.exists_eq_add_of_le le
  have started : (raising extra).Alike
      (start program version (.ofMeter (.flat limit) traced))
      (start program version (.ofMeter (.flat (limit + extra)) traced)) := by
    refine .intro ?_
    rfl
  exact need_of_ends (((raising extra).keeps_runOn context arguments).ends started)
    (total_runUnder limit context program version arguments traced)

/-! ### A predicate with a limit of its own -/

/-- A context in which nothing is known of the entry. -/
def bareContext : Context where
  maxVersion := 2
  blockHeight := 0
  blockTime := 0
  transactionId := Digest.filled 0
  entryId := Digest.filled 0
  signatureHash := Digest.filled 0
  program := []
  asset := none
  amount := none
  position := none
  spentOutput := none
  checkOutput := none
  verifySignature := fun _ _ _ => false

/-- Grants a true predicate too little gas and negates its verdict. -/
def starvedPredicate : Bytes :=
  [0x00, 0x01, 0x51, 0x55, 0xc0, 0x91]

/-- The refusal under the limit of the predicate is only a verdict; the refusal
by the meter, one unit of gas below the need, ends the run. -/
theorem exact_gas_need_of_starvedPredicate :
    outcomeOf (runUnder 305 bareContext starvedPredicate 1 [] true) = .ok .success ∧
      outcomeOf (runUnder 304 bareContext starvedPredicate 1 [] true) =
        .error (.fault .runLimitExceeded) := by
  have need : (Runs.final (runUnder 400 bareContext starvedPredicate 1 [] true)).books.meter.used =
      305 := by
    decide +kernel
  have succeeds : (outcomeOf (runUnder 400 bareContext starvedPredicate 1 [] true)).toOption =
      some .success := by
    decide +kernel
  constructor
  · have enough := exact_gas_need bareContext starvedPredicate 1 [] true
      (show 305 ≤ 400 by decide)
    rw [(enough.1 (Nat.le_of_eq need)).1]
    exact Checks.toOption_eq_some.mp succeeds
  · have short := exact_gas_need bareContext starvedPredicate 1 [] true
      (show 304 ≤ 400 by decide)
    exact (short.2 (Nat.lt_of_lt_of_eq (by decide) need.symm)).1

end Machine

end EntryLedger
