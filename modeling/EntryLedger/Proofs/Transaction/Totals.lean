import EntryLedger.Proofs.Judgement.Conservation
import EntryLedger.Proofs.Transaction.Entries

/-!
# What a transaction brings in and pays out

In the graph of a transaction that was walked, the values that are brought in
are those of its inputs, and the values that are received are those of its
outputs.  What the walk has left of an asset is the difference of the two.
-/

namespace EntryLedger

namespace Transaction

private theorem filterMap_mapIdx {Item Part Chosen : Type} {items : List Item}
    {part : Nat → Item → Part} {choose : Part → Option Chosen} {chosen : Item → Chosen}
    (found : ∀ index item, items[index]? = some item →
      choose (part index item) = some (chosen item)) :
    (items.mapIdx part).filterMap choose = items.map chosen := by
  induction items generalizing part with
  | nil => rfl
  | cons item items ih =>
      have rest := ih fun index other otherAt => found (index + 1) other (by simpa using otherAt)
      rw [List.mapIdx_cons, List.filterMap_cons, found 0 item (by simp), rest]
      rfl

/-- The parts of the entries of a transaction that only inputs have. -/
theorem filterMap_entries_of_inputs {Chosen : Type} {transaction : Transaction}
    {choose : Entry → Option Chosen} {chosen : Input → Chosen}
    (inputs : ∀ index input, transaction.inputs[index]? = some input →
      choose (input.entry transaction.inputs.length index) = some (chosen input))
    (mux : choose (.mux transaction.mux) = none)
    (outputs : ∀ (payment : Payment) mux index, choose (payment.entry mux index) = none) :
    transaction.entries.filterMap choose = transaction.inputs.map chosen := by
  have paid : (transaction.outputs.mapIdx fun index payment =>
      payment.entry transaction.inputs.length index).filterMap choose = [] := by
    rw [List.filterMap_eq_nil_iff]
    intro entry member
    obtain ⟨index, bound, rfl⟩ := List.mem_mapIdx.mp member
    exact outputs _ _ _
  rw [entries, List.filterMap_append, List.filterMap_cons, mux, paid,
    filterMap_mapIdx inputs, List.append_nil]

/-- The parts of the entries of a transaction that only outputs have. -/
theorem filterMap_entries_of_outputs {Chosen : Type} {transaction : Transaction}
    {choose : Entry → Option Chosen} {chosen : Payment → Chosen}
    (inputs : ∀ (input : Input) mux index, choose (input.entry mux index) = none)
    (mux : choose (.mux transaction.mux) = none)
    (outputs : ∀ (payment : Payment) mux index,
      choose (payment.entry mux index) = some (chosen payment)) :
    transaction.entries.filterMap choose = transaction.outputs.map chosen := by
  have brought : (transaction.inputs.mapIdx fun index input =>
      input.entry transaction.inputs.length index).filterMap choose = [] := by
    rw [List.filterMap_eq_nil_iff]
    intro entry member
    obtain ⟨index, bound, rfl⟩ := List.mem_mapIdx.mp member
    exact inputs _ _ _
  rw [entries, List.filterMap_append, List.filterMap_cons, mux, brought,
    filterMap_mapIdx fun index payment _ => outputs payment _ index, List.nil_append]

theorem received_entries (transaction : Transaction) :
    transaction.entries.filterMap Entry.received? =
      transaction.outputs.map Payment.value := by
  refine filterMap_entries_of_outputs ?_ rfl ?_
  · intro input mux index
    cases input with
    | spend body => rfl
    | issuance body => rfl
    | coinbase body => rfl
  · intro payment mux index
    unfold Payment.entry
    split
    · rfl
    · rfl

end Transaction

namespace Sealed

variable {tx : Sealed} {view : LedgerView} {native : AssetId}

/-- A walk finds every spent output recorded with the value of the spend. -/
theorem Made.recorded (made : tx.Made) {tally : Tally}
    (visits : tx.graph.Visits view native tx.graph.nodes .start tally)
    {index : Nat} {spend : SpendInput}
    (found : tx.transaction.inputs[index]? = some (.spend spend)) :
    view.output? spend.spentOutput = some spend.value := by
  obtain ⟨id, node⟩ := made.node found
  obtain ⟨_, _, examined⟩ := visits.exists_examine (List.mem_of_getElem? node)
  obtain ⟨link, destined, -, recorded, -⟩ := Graph.checkSpend_eq_ok.mp examined
  obtain rfl := Option.some.inj destined
  exact recorded

/-- A walk finds the inputs to bring in what they say. -/
theorem Made.brought_entries (made : tx.Made) {tally : Tally}
    (visits : tx.graph.Visits view native tx.graph.nodes .start tally) :
    tx.transaction.entries.filterMap (Entry.brought? view) =
      tx.transaction.inputs.map Input.value := by
  refine Transaction.filterMap_entries_of_inputs ?_ rfl ?_
  · intro index input found
    cases input with
    | spend body => exact made.recorded visits found
    | issuance body => rfl
    | coinbase body => rfl
  · intro payment mux index
    unfold Payment.entry
    split
    · rfl
    · rfl

/-- What a walk has left of an asset is what the inputs say less what the
outputs say. -/
theorem Made.left_eq (made : tx.Made) {tally : Tally}
    (visits : tx.graph.Visits view native tx.graph.nodes .start tally) (asset : AssetId) :
    tally.left native asset + Value.total (tx.transaction.outputs.map Payment.value) asset =
      Value.total (tx.transaction.inputs.map Input.value) asset := by
  have left := visits.left_eq (Graph.length_ids_of_build made.built) asset
  rwa [Graph.entries_of_build made.built, made.brought_entries visits,
    Transaction.received_entries] at left

end Sealed

end EntryLedger
