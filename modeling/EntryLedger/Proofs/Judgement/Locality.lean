import EntryLedger.Proofs.Judgement.Authorisation
import EntryLedger.Proofs.Transaction.Composition

/-!
# The part of a ledger that a judgement reads

The walk asks a ledger for the outputs that the spends name and for the definitions that
the issuances leave out.  Programs see no ledger: they run on what the walk has found.
Two ledgers that answer these questions alike therefore lead to one and the same
judgement, whatever else they record.
-/

namespace EntryLedger.Graph

/-- Two views that answer alike whatever the judgement of a graph asks. -/
structure SameSlice (graph : Graph) (view other : LedgerView) : Prop where
  outputs : ∀ spend, Entry.spend spend ∈ graph.entries →
    view.output? spend.spentOutput = other.output? spend.spentOutput
  definitions : ∀ issuance, Entry.issuance issuance ∈ graph.entries →
    issuance.definition = none →
    view.definition? issuance.value.asset = other.definition? issuance.value.asset

variable {graph : Graph} {view other : LedgerView}

/-- Of a ledger an issuance needs no more than a definition that it does not bring. -/
theorem SameSlice.definition_eq (slice : graph.SameSlice view other) {issuance : Issuance}
    (member : Entry.issuance issuance ∈ graph.entries) :
    issuance.definition.or (view.definition? issuance.value.asset) =
      issuance.definition.or (other.definition? issuance.value.asset) := by
  cases supplied : issuance.definition with
  | some definition => rfl
  | none => simp only [Option.none_or, slice.definitions issuance member supplied]

theorem SameSlice.examine_eq (slice : graph.SameSlice view other) (native : AssetId)
    (tally : Tally) (index : Nat) {entry : Entry} (member : entry ∈ graph.entries) :
    graph.examine view native tally index entry =
      graph.examine other native tally index entry := by
  cases entry with
  | spend spend =>
      change graph.checkSpend view tally index spend = graph.checkSpend other tally index spend
      simp only [checkSpend, slice.outputs spend member]
  | issuance issuance =>
      change graph.checkIssuance view tally index issuance =
        graph.checkIssuance other tally index issuance
      simp only [checkIssuance, slice.definition_eq member]
  | output output => rfl
  | retirement retirement => rfl
  | mux mux => rfl
  | coinbase coinbase => rfl

theorem SameSlice.walk_eq (slice : graph.SameSlice view other) (native : AssetId)
    {nodes : List (Nat × EntryId × Entry)}
    (inside : ∀ node ∈ nodes, node.2.2 ∈ graph.entries) (meter : Meter) (tally : Tally) :
    graph.walk view native nodes meter tally = graph.walk other native nodes meter tally := by
  induction nodes generalizing meter tally with
  | nil => rfl
  | cons node nodes ih =>
      obtain ⟨index, id, entry⟩ := node
      have here := slice.examine_eq native tally index (inside _ (List.mem_cons_self ..))
      have later := ih fun node member => inside node (List.mem_cons_of_mem _ member)
      simp only [walk, here, later]

/-- A judgement depends on a ledger only through its answers about the outputs that the
graph spends and the definitions that it leaves out: with the same answers come the same
verdict, with its gas or the entry that it blames, and the same journal. -/
theorem judge_eq_of_sameSlice (slice : graph.SameSlice view other) (setting : Setting) :
    graph.judge view setting = graph.judge other setting := by
  have inside : ∀ node ∈ graph.nodes, node.2.2 ∈ graph.entries :=
    fun _ member => List.mem_of_getElem? (getElem?_of_mem_nodes member)
  have vetted : graph.vet view setting = graph.vet other setting := by
    simp only [vet, slice.walk_eq _ inside]
  rw [judge, judge, vetted]

end EntryLedger.Graph

namespace EntryLedger

/-- The slice of a ledger that a transaction reads is given by its inputs. -/
theorem Sealed.Made.sameSlice {tx : Sealed} (made : tx.Made) {view other : LedgerView}
    (outputs : ∀ spend, .spend spend ∈ tx.transaction.inputs →
      view.output? spend.spentOutput = other.output? spend.spentOutput)
    (definitions : ∀ issuance, .issuance issuance ∈ tx.transaction.inputs →
      issuance.definition = none →
      view.definition? issuance.value.asset = other.definition? issuance.value.asset) :
    tx.graph.SameSlice view other := by
  -- Neither the mux nor a payment is a spend or an issuance.
  have fromInput {entry : Entry} (member : entry ∈ tx.graph.entries)
      (brings : entry.isInput = true) :
      ∃ input index, input ∈ tx.transaction.inputs ∧
        entry = input.entry tx.transaction.inputs.length index := by
    rw [Graph.entries_of_build made.built] at member
    obtain ⟨place, placed⟩ := List.mem_iff_getElem?.mp member
    cases Transaction.placeOf_of_getElem? placed with
    | input found => exact ⟨_, place, List.mem_of_getElem? found, rfl⟩
    | mux => cases brings
    | @payment index payment found =>
        unfold Payment.entry at brings
        split at brings
        · cases brings
        · cases brings
  constructor
  · intro spend member
    obtain ⟨input, index, known, same⟩ := fromInput member rfl
    cases input with
    | spend body =>
        cases same
        exact outputs body known
    | issuance body => cases same
    | coinbase body => cases same
  · intro issuance member missing
    obtain ⟨input, index, known, same⟩ := fromInput member rfl
    cases input with
    | spend body => cases same
    | issuance body =>
        cases same
        exact definitions body known missing
    | coinbase body => cases same

/-! ### A ledger that records other things -/

namespace Locality

open Authorisation

/-- A view that records every other output besides, and defines no other asset. -/
def crowdedView : LedgerView where
  output? := fun output =>
    if output = oldCoin.spentOutput then some oldCoin.value else some newCoin.value
  definition? := fun asset =>
    if asset = newCoin.value.asset then some freeDefinition else none

end Locality

open Authorisation Locality in
theorem Graph.judge_eq_of_sameSlice_of_exchange :
    ∃ tx, Sealed.ofTransaction exchange = .ok tx ∧
      tx.graph.SameSlice exchangeView crowdedView ∧
      (tx.graph.judge crowdedView .sample).outcome = .ok (.valid 30 5) := by
  have judged : (Sealed.ofTransaction exchange).toOption.bind (fun tx =>
      if tx.transaction = exchange then (tx.judge exchangeView .sample).outcome.toOption
      else none) = some (.valid 30 5) := by
    decide +kernel
  obtain ⟨tx, sealed, valid⟩ := Option.bind_eq_some_iff.mp judged
  have sealed := Checks.toOption_eq_some.mp sealed
  split at valid
  · rename_i same
    have slice : tx.graph.SameSlice exchangeView crowdedView := by
      apply (Sealed.Made.composed sealed).sameSlice
      · intro spend member
        obtain rfl : spend = oldCoin := by simpa [same, exchange] using member
        simp [exchangeView, crowdedView]
      · intro issuance member _
        obtain rfl : issuance = newCoin := by simpa [same, exchange] using member
        simp [exchangeView, crowdedView]
    have alike := Graph.judge_eq_of_sameSlice slice .sample
    exact ⟨tx, sealed, slice, alike ▸ Checks.toOption_eq_some.mp valid⟩
  · cases valid

end EntryLedger
