import EntryLedger.Proofs.Judgement.Account
import EntryLedger.Proofs.Machine.Deadline
import EntryLedger.Proofs.Machine.RunLimit

/-!
# Judgements after the deadline

What is checked before the walk does not look at the deadline.  The walk looks at it
before it pays for the first visit, so that an overdue judgement that gets so far is
cancelled at the first entry.  A deadline never changes a verdict in any other way.
-/

namespace EntryLedger

/-- The same setting after the deadline. -/
def Setting.overdue (setting : Setting) : Setting :=
  { setting with expired := true }

namespace Meter

theorem ofFee_overdue (fee size : UInt64) (params : Params) (expired : Bool) :
    ofFee fee size params true = (ofFee fee size params expired).map overdue := by
  unfold ofFee
  simp only
  split
  · rfl
  · split
    · rfl
    · rfl

end Meter

namespace Graph

variable {graph : Graph} {view : LedgerView} {setting : Setting}

/-- Opening a meter does not look at the deadline. -/
theorem openMeter_overdue :
    graph.openMeter setting.overdue = (graph.openMeter setting).map Meter.overdue := by
  have alike (coinbase : Coinbase) :
      coinbase.check setting.overdue graph.inputCount =
        coinbase.check setting graph.inputCount :=
    rfl
  have coinbases := checkCoinbases_congr alike graph.nodes
  have priced := Meter.ofFee_overdue graph.header.fee graph.header.size setting.params
    setting.expired
  rw [openMeter, openMeter, coinbases]
  cases checked : graph.header.check setting.params setting.blockTime with
  | error cause =>
      simp only [Setting.overdue, checked]
      rfl
  | ok _ =>
      cases ruled : checkCoinbases setting graph.inputCount graph.nodes with
      | error rejection =>
          simp only [Setting.overdue, checked]
          rfl
      | ok _ =>
          simp only [Setting.overdue, checked, priced]
          cases graph.results with
          | nil => rfl
          | cons result results =>
              cases Meter.ofFee graph.header.fee graph.header.size setting.params
                setting.expired with
              | error error => rfl
              | ok meter => rfl

/-- The judgement of a built graph after the deadline is the rejection that comes before
the walk also without a deadline, or it is cancelled at the first entry. -/
theorem judge_overdue {header : Header} {entries : List Entry} {results : List Nat}
    (built : build header entries results = .ok graph) :
    (∃ rejection, graph.openMeter setting = .error rejection ∧
      (graph.judge view setting).outcome = .ok (.invalid rejection) ∧
      (graph.judge view setting.overdue).outcome = .ok (.invalid rejection)) ∨
    (∃ meter, graph.openMeter setting = .ok meter) ∧
      ∃ id, graph.idAt? 0 = some id ∧
        (graph.judge view setting.overdue).outcome =
          .ok (.invalid { cause := .deadlineExceeded, entry := some id }) := by
  have rejected {setting : Setting} {rejection : Rejection}
      (refused : graph.openMeter setting = .error rejection) :
      (graph.judge view setting).outcome = .ok (.invalid rejection) := by
    rw [judge, vet, refused]
    rfl
  cases opened : graph.openMeter setting with
  | error rejection =>
      have refused : graph.openMeter setting.overdue = .error rejection := by
        rw [openMeter_overdue, opened]
        rfl
      exact .inl ⟨rejection, rfl, rejected opened, rejected refused⟩
  | ok meter =>
      right
      obtain ⟨-, -, resulting, -⟩ := openMeter_eq_ok.mp opened
      obtain ⟨⟨index, id, entry⟩, nodes, first⟩ :=
        List.exists_cons_of_ne_nil (nodes_ne_nil_of_build built resulting)
      have placed : graph.nodes[0]? = some (index, id, entry) := by rw [first]; rfl
      obtain ⟨-, identified, -⟩ := getElem?_nodes_eq_some.mp placed
      refine ⟨⟨meter, rfl⟩, id, identified, ?_⟩
      have late : graph.openMeter setting.overdue = .ok meter.overdue := by
        rw [openMeter_overdue, opened]
        rfl
      rw [judge, vet, late, first]
      rfl

end Graph

/-- A deadline can only cancel.  A program is cancelled if it makes enough charges for a
look at the deadline, at all levels and for the arguments together, and otherwise ends
as it does in time; that is so for the machine and for the check of a program alike.  No
predicate hides that it was cancelled.  An overdue judgement ends with a rejection that
comes before the walk, or is cancelled at the first entry. -/
theorem deadline_only_cancels :
    (∀ (context : Context) (program : Bytes) (version : UInt64) (arguments : List Bytes)
        (traced : Bool) (meter : Meter), meter.expired = false → meter.charges = 0 →
      Machine.OnlyCancels (fun machine => machine.books.meter.charges) Machine.overdue
        (Machine.runFrom context program version arguments traced meter.overdue)
        (Machine.runFrom context program version arguments traced meter)) ∧
    (∀ (context : Context) (program : Program) (arguments : List Bytes) (traced : Bool)
        (meter : Meter), meter.expired = false → meter.charges = 0 →
      Machine.OnlyCancels (fun books => books.meter.charges) Books.overdue
        ((Machine.authorise context program arguments).run (.ofMeter meter.overdue traced))
        ((Machine.authorise context program arguments).run (.ofMeter meter traced))) ∧
    (∀ (context : Context) (machine caller callee : Machine) (call : Machine.Call),
      Machine.Calls machine call caller →
        (Machine.run context).run (call.machine caller) =
          .error (.fault .deadlineExceeded) callee →
        ∃ after, (Machine.step context).run machine =
          .error (.fault .deadlineExceeded) after) ∧
    ∀ (header : Header) (entries : List Entry) (results : List Nat) (graph : Graph)
        (view : LedgerView) (setting : Setting),
      Graph.build header entries results = .ok graph →
        (∃ rejection, graph.openMeter setting = .error rejection ∧
          (graph.judge view setting).outcome = .ok (.invalid rejection) ∧
          (graph.judge view setting.overdue).outcome = .ok (.invalid rejection)) ∨
        (∃ meter, graph.openMeter setting = .ok meter) ∧
          ∃ id, graph.idAt? 0 = some id ∧
            (graph.judge view setting.overdue).outcome =
              .ok (.invalid { cause := .deadlineExceeded, entry := some id }) := by
  refine ⟨?_, ?_, ?_, ?_⟩
  · intro context program version arguments traced meter timely fresh
    exact Machine.onlyCancels_runFrom timely fresh context program version arguments traced
  · intro context program arguments traced meter timely fresh
    exact Machine.onlyCancels_authorise timely fresh context program arguments traced
  · intro context machine caller callee call calls ended
    exact calls.cancelled ended
  · intro header entries results graph view setting built
    exact Graph.judge_overdue built

/-! ### A predicate that takes too long -/

namespace Deadline

/-- Pushes forty items. -/
def longPredicate : Bytes :=
  List.replicate 40 0x51

/-- A machine whose next instruction calls the predicate. -/
def impatient : Machine :=
  { Machine.start [0xc0] 1 (.ofMeter (Meter.flat 10000) false) with
    stack := [[], longPredicate, []] }

def longCall : Machine.Call where
  predicate := longPredicate
  items := []
  rest := []
  limit := 0

/-- The machine as it waits for the predicate. -/
def waiting : Machine :=
  { impatient with
    books.meter := Machine.paid impatient.books.meter 256
    books.started := 1 }

theorem calls_impatient : Machine.Calls impatient.overdue longCall waiting.overdue :=
  .intro (rfl : impatient.overdue.fetch = .ok (_, .checkPredicate)) rfl rfl (by decide) rfl

/-- The predicate makes the 64th charge long before its end. -/
theorem exists_cancelled : ∃ callee,
    (Machine.run Machine.bareContext).run (longCall.machine waiting.overdue) =
      .error (.fault .deadlineExceeded) callee := by
  have cancels := Machine.onlyCancels_run Machine.bareContext
    (show (longCall.machine waiting).books.meter.expired = false from rfl) (by decide)
  exact cancels.cancelled (by decide +kernel)

end Deadline

open Deadline Machine Conservation in
theorem deadline_only_cancels_of_longPredicate :
    (∃ after, runFrom bareContext longPredicate 1 [] false (Meter.flat 10000).overdue =
      .error (.fault .deadlineExceeded) after) ∧
    (∃ after, (authorise bareContext (Program.first longPredicate) []).run
        (.ofMeter (Meter.flat 10000).overdue false) =
      .error (.fault .deadlineExceeded) after) ∧
    (∃ after, (step bareContext).run impatient.overdue =
      .error (.fault .deadlineExceeded) after) ∧
    ∃ graph, Graph.build twoMuxesHeader twoMuxes [2, 5] = .ok graph ∧
      ∃ id, graph.idAt? 0 = some id ∧
        (graph.judge twoMuxesView Setting.sample.overdue).outcome =
          .ok (.invalid { cause := .deadlineExceeded, entry := some id }) := by
  obtain ⟨runs, checks, calls, judgements⟩ := deadline_only_cancels
  refine ⟨?_, ?_, ?_, ?_⟩
  · exact (runs bareContext longPredicate 1 [] false (.flat 10000) rfl rfl).cancelled
      (by decide +kernel)
  · exact (checks bareContext (Program.first longPredicate) [] false (.flat 10000) rfl
      rfl).cancelled (by decide +kernel)
  · obtain ⟨callee, cancelled⟩ := exists_cancelled
    exact calls bareContext impatient.overdue waiting.overdue callee longCall calls_impatient
      cancelled
  · obtain ⟨graph, built, -, valid⟩ : ∃ graph,
        Graph.build twoMuxesHeader twoMuxes [2, 5] = .ok graph ∧ graph.hasCoinbase = false ∧
          (graph.judge twoMuxesView .sample).outcome = .ok (.valid 40 6) :=
      Graph.exists_of_judged (by decide +kernel)
    rcases judgements _ _ _ graph twoMuxesView .sample built with
      ⟨rejection, -, rejected, -⟩ | ⟨-, cancelled⟩
    · rw [valid] at rejected
      cases rejected
    · exact ⟨graph, built, cancelled⟩

end EntryLedger
