import EntryLedger.Proofs.Transaction.Commitment

/-!
# Outputs are found by those who spend them

What a payment makes of the value of a mux has an identity that is computed when the
graph is built.  A later spend computes it again from what it repeats of the payment.
Both agree whatever the payment pays and whatever its program is, unless the program
retires the value: a retirement is no output, and its identity is of another kind.
-/

namespace EntryLedger

namespace Payment

variable (payment : Payment) (mux index : Nat)

/-- The layout of what a payment makes of the value of a mux. -/
def layout (muxId : EntryId) : Bytes :=
  let position := UInt64.ofNat index
  if payment.program.isRetirement then
    Entry.sourceLayout muxId payment.value position ++ Layout.word position
  else Entry.outputLayout muxId payment.value position payment.program

theorem layout?_entry (idAt : Nat → Option EntryId) :
    (payment.entry mux index).layout? idAt = (idAt mux).map (payment.layout index) := by
  unfold entry layout
  by_cases retires : payment.program.isRetirement = true
  · simp only [if_pos retires, Entry.layout?, Entry.linkLayout?]
    cases idAt mux with
    | none => rfl
    | some muxId => rfl
  · simp only [if_neg retires, Entry.layout?]

theorem id?_entry (idAt : Nat → Option EntryId) :
    (payment.entry mux index).id? idAt =
      (idAt mux).map fun muxId =>
        Entry.idOfLayout (payment.entry mux index).kind (payment.layout index muxId) := by
  rw [Entry.id?, layout?_entry, Option.map_map]
  rfl

theorem preimages_entry {idAt : Nat → Option EntryId} {muxId : EntryId}
    (found : idAt mux = some muxId) :
    (payment.entry mux index).preimages idAt =
      Entry.preimagesOfLayout (payment.entry mux index).kind (payment.layout index muxId) := by
  rw [Entry.preimages, layout?_entry, found]
  rfl

end Payment

namespace Sealed

variable {tx : Sealed} {index : Nat} {payment : Payment}

/-- A transaction with few enough parts can be sealed. -/
theorem exists_ofTransaction (transaction : Transaction)
    (few : transaction.inputs.length + transaction.outputs.length + 1 ≤ Graph.maxEntries) :
    ∃ tx, ofTransaction transaction = .ok tx ∧ tx.transaction = transaction := by
  obtain ⟨graph, built⟩ :=
    (Transaction.exists_graph_iff (UInt64.ofNat transaction.encode.length)).mpr few
  refine ⟨{ transaction := transaction, size := UInt64.ofNat transaction.encode.length
            graph := graph }, ?_, rfl⟩
  simp only [ofTransaction, built, Checks.ok_bind, Checks.pure_eq_ok]

theorem Made.exists_muxId? (made : tx.Made) : ∃ muxId, tx.muxId? = some muxId :=
  Graph.isSome_idAt?_of_build made.built (Transaction.getElem?_entries_mux tx.transaction)

/-- The identity that the graph records for what a payment makes. -/
theorem Made.outputId?_eq (made : tx.Made)
    (paid : tx.transaction.outputs[index]? = some payment) {muxId : EntryId}
    (mixed : tx.muxId? = some muxId) :
    tx.outputId? index =
      some (Entry.idOfLayout (payment.entry tx.transaction.inputs.length index).kind
        (payment.layout index muxId)) := by
  have inside := (List.getElem?_eq_some_iff.mp paid).1
  have identity := Graph.idAt?_of_build made.built (Transaction.getElem?_entries_payment paid)
  have mixed : tx.graph.idAt? tx.transaction.inputs.length = some muxId := mixed
  rw [outputId?, Graph.results_of_build made.built, Transaction.getElem?_results inside,
    Option.bind_some, identity, Payment.id?_entry, mixed, Option.map_some]

theorem spendOutput?_eq (paid : tx.transaction.outputs[index]? = some payment)
    {muxId : EntryId} (mixed : tx.muxId? = some muxId) :
    tx.spendOutput? index =
      some {
        sourceId := muxId
        sourcePosition := UInt64.ofNat index
        value := payment.value
        program := payment.program
        arguments := [] } := by
  simp only [spendOutput?, paid, mixed]
  rfl

/-- Every payment of a transaction can be named by a later spend, and what it makes has an
identity.  A spend names exactly that identity if the payment does not retire its value,
whatever else its program is.  If it does, then the spend names something else, unless two
of the strings that are hashed for both identities collide. -/
theorem outputs_found_by_spends (made : tx.Made) (index : Nat)
    (inside : index < tx.transaction.outputs.length) :
    ∃ spend id, tx.spendOutput? index = some spend ∧ tx.outputId? index = some id ∧
      (¬ tx.transaction.outputs[index].program.isRetirement → spend.spentOutput = id) ∧
      (tx.transaction.outputs[index].program.isRetirement →
        CollisionFree ((Input.spend spend).preimages ++
          (tx.transaction.outputs[index].entry tx.transaction.inputs.length index).preimages
            tx.graph.idAt?) →
        spend.spentOutput ≠ id) := by
  obtain ⟨muxId, mixed⟩ := made.exists_muxId?
  have paid := List.getElem?_eq_getElem inside
  refine ⟨_, _, spendOutput?_eq paid mixed, made.outputId?_eq paid mixed, ?_, ?_⟩
  · intro spendable
    rw [Payment.kind_entry, if_neg spendable, Payment.layout, if_neg spendable]
    rfl
  · intro retires free same
    have hashed : (tx.transaction.outputs[index].entry tx.transaction.inputs.length
        index).preimages tx.graph.idAt? = _ :=
      Payment.preimages_entry _ _ _ mixed
    rw [hashed] at free
    obtain ⟨kinds, -⟩ := Entry.idOfLayout_inj free (List.subset_append_left ..)
      (List.subset_append_right ..) same
    rw [Payment.kind_entry, if_pos retires] at kinds
    cases kinds

end Sealed

/-! ### An output beside a retirement -/

namespace Spending

/-- A reward, one part of which is kept and the other one destroyed. -/
def halfRetired : Transaction where
  version := 1
  timeRange := { earliest := 0, latest := 0 }
  fee := 0
  inputs := [.coinbase { value := { asset := AssetId.native, amount := 8 }, data := [] }]
  outputs := [
    { value := { asset := AssetId.native, amount := 5 }, program := Transaction.muxProgram },
    { value := { asset := AssetId.native, amount := 3 }, program := Program.first [0x6a] }]

end Spending

open Spending

theorem Sealed.outputs_found_by_spends_of_halfRetired :
    ∃ tx spend, Sealed.ofTransaction halfRetired = .ok tx ∧ tx.spendOutput? 0 = some spend ∧
      tx.outputId? 0 = some spend.spentOutput := by
  obtain ⟨tx, sealed, same⟩ := Sealed.exists_ofTransaction halfRetired (by decide)
  have inside : 0 < tx.transaction.outputs.length := by
    rw [same]
    decide
  obtain ⟨spend, id, spends, named, found, -⟩ :=
    Sealed.outputs_found_by_spends (.composed sealed) 0 inside
  have kept : ¬ tx.transaction.outputs[0].program.isRetirement := by
    simp only [same]
    change ¬ Transaction.muxProgram.isRetirement = true
    decide
  exact ⟨tx, spend, sealed, spends, by rw [named, found kept]⟩

/-- The program of the second payment is one for which the spend and the graph disagree. -/
theorem Sealed.retirement_not_found_by_spend :
    ∃ tx spend id, Sealed.ofTransaction halfRetired = .ok tx ∧
      1 < tx.transaction.outputs.length ∧ tx.spendOutput? 1 = some spend ∧
      tx.outputId? 1 = some id ∧ spend.spentOutput ≠ id := by
  have computed : (Sealed.ofTransaction halfRetired).toOption.bind (fun tx => do
      let spend ← tx.spendOutput? 1
      let id ← tx.outputId? 1
      return decide (1 < tx.transaction.outputs.length ∧ spend.spentOutput ≠ id)) =
        some true := by
    decide +kernel
  obtain ⟨tx, sealed, found⟩ := Option.bind_eq_some_iff.mp computed
  obtain ⟨spend, spends, found⟩ := Option.bind_eq_some_iff.mp found
  obtain ⟨id, named, found⟩ := Option.bind_eq_some_iff.mp found
  obtain ⟨inside, different⟩ := of_decide_eq_true (Option.some.inj found)
  exact ⟨tx, spend, id, Checks.toOption_eq_some.mp sealed, inside, spends, named, different⟩

end EntryLedger
