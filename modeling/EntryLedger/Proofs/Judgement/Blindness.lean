import EntryLedger.Proofs.Judgement.Account
import EntryLedger.Proofs.Machine.Blindness

/-!
# Transactions that are the same in every block

A transaction can depend on the block in two ways only: by the range of times that its
header declares, and by programs that read the block.  One that leaves its range open
on both sides and is guarded by programs of the first version is judged in the same
way at every height and time.
-/

namespace EntryLedger

/-- The same setting in another block. -/
def Setting.atBlock (setting : Setting) (height time : UInt64) : Setting :=
  { setting with blockHeight := height, blockTime := time }

/-- A range of times that is open on both sides. -/
def TimeRange.unbounded : TimeRange where
  earliest := 0
  latest := 0

theorem Header.check_eq_of_unbounded {header : Header}
    (timeless : header.timeRange = .unbounded) (params : Params) (time time' : UInt64) :
    header.check params time = header.check params time' := by
  have inside (time : UInt64) : header.timeRange.contains time = true := by
    rw [timeless]
    simp [TimeRange.contains, TimeRange.unbounded]
  have upright : header.timeRange.isInverted = false := by
    rw [timeless]
    rfl
  simp [check, inside, upright]

namespace Graph

variable {graph : Graph} {view : LedgerView} {setting : Setting} {height time : UInt64}

theorem vet_atBlock (timeless : graph.header.timeRange = .unbounded) :
    graph.vet view (setting.atBlock height time) = graph.vet view setting := by
  have header := Header.check_eq_of_unbounded timeless setting.params time setting.blockTime
  have alike (coinbase : Coinbase) :
      coinbase.check (setting.atBlock height time) graph.inputCount =
        coinbase.check setting graph.inputCount :=
    rfl
  have coinbases := checkCoinbases_congr alike graph.nodes
  have opened : graph.openMeter (setting.atBlock height time) = graph.openMeter setting := by
    rw [openMeter, openMeter, coinbases]
    simp only [Setting.atBlock, header]
  rw [vet, vet, opened]
  rfl

/-- A node that has no program, or one of the first version, passes alike in every
block. -/
theorem runGuard_atBlock {tally : Tally} {index : Nat} {entry : Entry}
    (first : ∀ guard, tally.guard? index entry = .ok (some guard) →
      guard.program.version = 1) (id : EntryId) :
    graph.runGuard (setting.atBlock height time) tally index id entry =
      graph.runGuard setting tally index id entry := by
  cases guarded : tally.guard? index entry with
  | error cause => rw [runGuard, runGuard, guarded]
  | ok found =>
      cases found with
      | none => rw [runGuard, runGuard, guarded]
      | some guard =>
          rw [runGuard, runGuard, guarded]
          cases hashed : graph.signatureHash? index with
          | none => rfl
          | some hash =>
              funext books
              have same := Machine.authorise_atBlock (graph.guardContext setting id hash guard)
                height time (first guard guarded) entry.arguments books
              have context : graph.guardContext (setting.atBlock height time) id hash guard =
                  (graph.guardContext setting id hash guard).atBlock height time :=
                rfl
              simp only [Judging.authorise, context, same]

theorem runGuards_atBlock {tally : Tally} {nodes : List (Nat × EntryId × Entry)}
    (first : ∀ node ∈ nodes, ∀ guard, tally.guard? node.1 node.2.2 = .ok (some guard) →
      guard.program.version = 1) :
    graph.runGuards (setting.atBlock height time) tally nodes =
      graph.runGuards setting tally nodes := by
  induction nodes with
  | nil => rfl
  | cons node nodes ih =>
      obtain ⟨index, id, entry⟩ := node
      rw [runGuards, runGuards, runGuard_atBlock (first _ (List.mem_cons_self ..)) id,
        ih fun later member => first later (List.mem_cons_of_mem _ member)]

/-- A graph without bounds on the time whose programs are of the first version is judged
alike in every block. -/
theorem judge_atBlock (timeless : graph.header.timeRange = .unbounded)
    (first : ∀ entry ∈ graph.entries, ∀ guard, entry.guard? view = some guard →
      guard.program.version = 1) :
    graph.judge view (setting.atBlock height time) = graph.judge view setting := by
  rw [judge, judge, vet_atBlock timeless]
  cases vetted : graph.vet view setting with
  | error refusal => rfl
  | ok found =>
      obtain ⟨meter, tally⟩ := found
      obtain ⟨_, -, walked, -⟩ := vet_eq_ok.mp vetted
      have visits := visits_of_walk walked
      have same : graph.runGuards (setting.atBlock height time) tally graph.nodes =
          graph.runGuards setting tally graph.nodes := by
        apply runGuards_atBlock
        rintro ⟨index, id, entry⟩ member guard guarded
        rw [visits.guard?_eq member, Except.ok.injEq] at guarded
        exact first entry (List.mem_of_getElem? (getElem?_of_mem_nodes member)) guard guarded
      simp only [same]

end Graph

/-! ### Transactions -/

/-- The spends and the issuances of a transaction answer to programs of the first version
only, also where a view supplies the definition. -/
structure Transaction.FirstVersion (transaction : Transaction) (view : LedgerView) :
    Prop where
  spends : ∀ spend, .spend spend ∈ transaction.inputs → spend.program.version = 1
  issuances : ∀ issuance definition, .issuance issuance ∈ transaction.inputs →
    issuance.definition.or (view.definition? issuance.value.asset) = some definition →
    definition.program.version = 1

/-- The mux of a transaction has a program of the first version, and its outputs have no
guard. -/
theorem Transaction.FirstVersion.guard {transaction : Transaction} {view : LedgerView}
    (first : transaction.FirstVersion view) {entry : Entry} {guard : Guard}
    (member : entry ∈ transaction.entries) (guarded : entry.guard? view = some guard) :
    guard.program.version = 1 := by
  rw [entries, List.mem_append, List.mem_cons] at member
  rcases member with input | rfl | output
  · obtain ⟨index, inside, rfl⟩ := List.mem_mapIdx.mp input
    have known := List.getElem_mem inside
    cases found : transaction.inputs[index] with
    | spend body =>
        rw [found] at known guarded
        cases guarded
        exact first.spends body known
    | issuance body =>
        rw [found] at known guarded
        obtain ⟨definition, supplied, rfl⟩ := Option.map_eq_some_iff.mp guarded
        exact first.issuances body definition known supplied
    | coinbase body =>
        rw [found] at guarded
        cases guarded
  · cases guarded
    rfl
  · obtain ⟨index, inside, rfl⟩ := List.mem_mapIdx.mp output
    unfold Payment.entry at guarded
    split at guarded
    · cases guarded
    · cases guarded

/-- Programs of the first version cannot observe the block, at whatever level they run:
what they come to, what they use and what the journal notes is the same in every block.
A transaction of such programs that does not bound the time is judged alike in every
block. -/
theorem Sealed.blind_to_block (height time : UInt64) :
    (∀ (context : Context) (program : Program) (arguments : List Bytes) (books : Books),
      program.version = 1 →
        (Machine.authorise (context.atBlock height time) program arguments).run books =
          (Machine.authorise context program arguments).run books) ∧
    (∀ (context : Context) (machine : Machine), machine.version = 1 →
      (Machine.run (context.atBlock height time)).run machine =
        (Machine.run context).run machine) ∧
    ∀ (tx : Sealed) (view : LedgerView) (setting : Setting), tx.Made →
      tx.transaction.FirstVersion view → tx.transaction.timeRange = .unbounded →
        tx.judge view (setting.atBlock height time) = tx.judge view setting := by
  refine ⟨?_, ?_, ?_⟩
  · intro context program arguments books first
    exact Machine.authorise_atBlock context height time first arguments books
  · intro context machine first
    exact Machine.run_atBlock first
  · intro tx view setting made first timeless
    apply Graph.judge_atBlock
    · rw [Graph.header_of_build made.built]
      exact timeless
    · intro entry member guard guarded
      rw [Graph.entries_of_build made.built] at member
      exact first.guard member guarded

/-! ### A spend beside an issuance in another block -/

open Authorisation Machine in
theorem Sealed.blind_to_block_of_exchange :
    (authorise (bareContext.atBlock 7 9) (Program.first heightPredicate) []).run
        (.ofMeter (.flat 1000) true) =
      (authorise bareContext (Program.first heightPredicate) []).run
        (.ofMeter (.flat 1000) true) ∧
    (run (bareContext.atBlock 7 9)).run (start heightPredicate 1 (.ofMeter (.flat 1000) true)) =
      (run bareContext).run (start heightPredicate 1 (.ofMeter (.flat 1000) true)) ∧
    ∃ tx, Sealed.ofTransaction exchange = .ok tx ∧
      (tx.judge exchangeView (Setting.sample.atBlock 7 9)).outcome = .ok (.valid 30 5) := by
  obtain ⟨checks, runs, judgements⟩ := Sealed.blind_to_block 7 9
  refine ⟨checks _ _ _ _ rfl, runs _ _ rfl, ?_⟩
  have judged : (Sealed.ofTransaction exchange).toOption.bind (fun tx =>
      if tx.transaction = exchange then (tx.judge exchangeView .sample).outcome.toOption
      else none) = some (.valid 30 5) := by
    decide +kernel
  obtain ⟨tx, sealed, valid⟩ := Option.bind_eq_some_iff.mp judged
  have sealed := Checks.toOption_eq_some.mp sealed
  split at valid
  · rename_i same
    have valid := Checks.toOption_eq_some.mp valid
    have first : tx.transaction.FirstVersion exchangeView := by
      rw [same]
      constructor
      · intro spend member
        obtain rfl : spend = oldCoin := by simpa [exchange] using member
        rfl
      · intro issuance definition member supplied
        obtain rfl : issuance = newCoin := by simpa [exchange] using member
        cases supplied
        rfl
    have timeless : tx.transaction.timeRange = .unbounded := by
      rw [same]
      rfl
    have blind := judgements tx exchangeView .sample (.composed sealed) first timeless
    exact ⟨tx, sealed, blind ▸ valid⟩
  · cases valid

end EntryLedger
