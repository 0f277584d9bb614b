import EntryLedger.Proofs.Judgement.Account
import EntryLedger.Proofs.Transaction.Mapping

/-!
# When a transaction balances

A walk over the entries of a transaction comes to one mux, which all inputs feed.  When the
ledger agrees with every input and the visits are paid for, nothing but the account of this
mux can stop the walk, and what the mux leaves is all that the fee is compared with.  Walk
and comparison together are thus an exact test of the amounts, however many there are.
-/

namespace EntryLedger.Transaction

variable {transaction : Transaction} {size : UInt64} {graph : Graph} {view : LedgerView}
  {native : AssetId}

/-- The ledger agrees with the inputs of a transaction, and no output is spent twice. -/
structure Backed (transaction : Transaction) (view : LedgerView) : Prop where
  recorded : ∀ spend, .spend spend ∈ transaction.inputs →
    view.output? spend.spentOutput = some spend.value
  once : ∀ (first second : Nat) (spend spend' : SpendInput),
    transaction.inputs[first]? = some (.spend spend) →
    transaction.inputs[second]? = some (.spend spend') →
    spend.spentOutput = spend'.spentOutput → first = second
  defined : ∀ issuance, .issuance issuance ∈ transaction.inputs →
    ∃ definition,
      issuance.definition.or (view.definition? issuance.value.asset) = some definition ∧
        definition.assetId = issuance.value.asset

/-- The amounts of a transaction can be represented, and those that come in are those that
go out together with the fee. -/
structure Balances (transaction : Transaction) (native : AssetId) : Prop where
  inputsFit : ∀ input ∈ transaction.inputs, input.value.Representable
  outputsFit : ∀ payment ∈ transaction.outputs, payment.value.Representable
  feeFits : transaction.fee.toNat < 2 ^ 63
  bounded : ∀ asset, Value.total (transaction.inputs.map Input.value) asset < 2 ^ 63
  supplied : ∀ payment ∈ transaction.outputs,
    ∃ input ∈ transaction.inputs, input.value.asset = payment.value.asset
  foreign : ∀ asset, asset ≠ native →
    Value.total (transaction.inputs.map Input.value) asset =
      Value.total (transaction.outputs.map Payment.value) asset
  native : Value.total (transaction.inputs.map Input.value) native =
    Value.total (transaction.outputs.map Payment.value) native + transaction.fee.toNat

/-- Amounts balance exactly when their account leaves the fee. -/
theorem account_eq_fee_iff :
    (transaction.fee.toNat < 2 ^ 63 ∧
      Balance.account native (transaction.inputs.map Input.value)
        (transaction.outputs.map Payment.value) 0 = .ok transaction.fee.toNat) ↔
      transaction.Balances native := by
  rw [Balance.account_eq_ok (by decide)]
  constructor
  · rintro ⟨feeFits, balanced, -, exact⟩
    constructor
    · exact fun input member => balanced.takenFit _ (List.mem_map_of_mem member)
    · exact fun payment member => balanced.givenFit _ (List.mem_map_of_mem member)
    · exact feeFits
    · exact balanced.bounded
    · intro payment member
      obtain ⟨value, found, same⟩ := balanced.supplied _ (List.mem_map_of_mem member)
      obtain ⟨input, member, rfl⟩ := List.mem_map.mp found
      exact ⟨input, member, same⟩
    · exact balanced.equal
    · omega
  · intro balances
    have native := balances.native
    refine ⟨balances.feeFits, ?_, ?_, by omega⟩
    · constructor
      · exact List.forall_mem_map.mpr balances.inputsFit
      · exact List.forall_mem_map.mpr balances.outputsFit
      · exact balances.bounded
      · intro value member
        obtain ⟨payment, listed, rfl⟩ := List.mem_map.mp member
        obtain ⟨input, found, same⟩ := balances.supplied payment listed
        exact ⟨input.value, List.mem_map_of_mem found, same⟩
      · omega
      · exact balances.foreign
    · have feeFits := balances.feeFits
      simp only [Number.fits, decide_eq_true_eq]
      omega

/-- What a walk over a transaction leaves is what the account of its amounts leaves. -/
theorem account_of_visits {tally : Tally} (made : transaction.graph size = .ok graph)
    (visits : graph.Visits view native graph.nodes .start tally) :
    Balance.account native (transaction.inputs.map Input.value)
      (transaction.outputs.map Payment.value) 0 = .ok tally.residual := by
  have identified := Graph.length_ids_of_build (graph_eq_ok made)
  obtain ⟨id, node⟩ := Graph.exists_node identified
    ((getElem?_graph made _).trans (getElem?_entries_mux transaction))
  obtain ⟨front, back, parts⟩ := List.append_of_mem (List.mem_of_getElem? node)
  obtain ⟨muxlessFront, muxlessBack⟩ := muxless_around made parts rfl
  rw [parts] at visits
  obtain ⟨before, visitsFront, visits⟩ := Graph.visits_append.mp visits
  have nothing : before.residual = 0 := visitsFront.residual_eq muxlessFront
  cases visits with
  | visit examined visitsBack =>
      rw [visitsBack.residual_eq muxlessBack]
      cases Graph.learns_of_examine examined with
      | mux balanced => rwa [balanceMux_eq_account made, nothing] at balanced

/-- There is no objection to a transaction that the ledger agrees with and whose amounts
have an account. -/
theorem Backed.not_objects (backed : transaction.Backed view) {cause : Cause} {left : Int}
    (accounted : Balance.account native (transaction.inputs.map Input.value)
      (transaction.outputs.map Payment.value) 0 = .ok left) :
    ¬ transaction.Objects view native cause := by
  intro objects
  cases objects with
  | disagrees disagrees =>
      cases disagrees with
      | respent before found found' same =>
          exact Nat.ne_of_lt before (backed.once _ _ _ _ found found' same)
      | foreign member known differs =>
          rw [backed.recorded _ member] at known
          cases known
          exact differs rfl
      | misvalued member known same differs =>
          rw [backed.recorded _ member] at known
          cases known
          exact differs rfl
      | misdefined member supplied differs =>
          obtain ⟨definition, known, same⟩ := backed.defined _ member
          rw [known] at supplied
          cases supplied
          exact differs same.symm
  | orphan member unknown orphaned =>
      rw [backed.recorded _ member] at unknown
      cases unknown
  | undefined member unknown missing =>
      obtain ⟨definition, known, -⟩ := backed.defined _ member
      rw [known] at unknown
      cases unknown
  | unbalanced refused =>
      rw [accounted] at refused
      cases refused

/-- When the ledger agrees with a transaction and its visits are paid for in time, the walk
over its entries and the check of its fee succeed exactly if its amounts balance. -/
theorem walk_exact {meter : Meter} (made : transaction.graph size = .ok graph)
    (backed : transaction.Backed view) (timely : meter.expired = false)
    (enough : graph.nodes.length * meter.visitCost ≤ meter.remaining) :
    (∃ walked tally, graph.walk view native graph.nodes meter .start = .ok (walked, tally) ∧
        tally.checkFee native graph.header.fee = .ok ()) ↔
      transaction.Balances native := by
  have fee : graph.header.fee = transaction.fee := by
    rw [Graph.header_of_build (graph_eq_ok made)]
    rfl
  rw [← account_eq_fee_iff, fee]
  constructor
  · rintro ⟨walked, tally, finished, feeChecked⟩
    obtain ⟨feeFits, exact⟩ := Tally.checkFee_eq_ok.mp feeChecked
    have accounted := account_of_visits made (Graph.visits_of_walk finished)
    rw [exact] at accounted
    exact ⟨feeFits, accounted⟩
  · rintro ⟨feeFits, accounted⟩
    rcases Graph.visits_or_stops graph.nodes .start with ⟨tally, visits⟩ | ⟨id, cause, stops⟩
    · have exact : tally.residual = transaction.fee.toNat :=
        Except.ok.inj ((account_of_visits made visits).symm.trans accounted)
      exact ⟨_, tally, Graph.walk_eq_ok.mpr ⟨visits, fun _ => timely, enough, rfl⟩,
        Tally.checkFee_eq_ok.mpr ⟨feeFits, exact⟩⟩
    · exact (backed.not_objects accounted (objects_of_stops made stops)).elim

/-! ### An exchange that balances -/

open Authorisation

theorem backed_exchange : exchange.Backed exchangeView where
  recorded := by
    intro spend member
    obtain rfl : spend = oldCoin := by simpa [exchange] using member
    simp only [exchangeView, if_true]
  once := by
    intro first second spend spend' found found' _
    have only {index : Nat} {coin : SpendInput}
        (coinAt : exchange.inputs[index]? = some (.spend coin)) : index = 0 := by
      match index with
      | 0 => rfl
      | 1 => cases coinAt
      | index + 2 => cases coinAt
    rw [only found, only found']
  defined := by
    intro issuance member
    obtain rfl : issuance = newCoin := by simpa [exchange] using member
    exact ⟨freeDefinition, rfl, rfl⟩

theorem balances_exchange : exchange.Balances AssetId.native := by
  have different : newCoin.value.asset ≠ AssetId.native := by decide +kernel
  have coins (asset : AssetId) :
      oldCoin.value.amountOf asset = (if AssetId.native = asset then 110 else 0) ∧
        newCoin.value.amountOf asset = (if newCoin.value.asset = asset then 5 else 0) :=
    ⟨rfl, rfl⟩
  have brought (asset : AssetId) : Value.total (exchange.inputs.map Input.value) asset =
      oldCoin.value.amountOf asset + newCoin.value.amountOf asset := rfl
  have paid (asset : AssetId) : Value.total (exchange.outputs.map Payment.value) asset =
      (if AssetId.native = asset then 10 else 0) + newCoin.value.amountOf asset := rfl
  constructor
  · decide
  · decide
  · decide
  · intro asset
    rw [brought, (coins asset).1, (coins asset).2]
    split
    · split <;> omega
    · split <;> omega
  · intro payment member
    rcases List.mem_pair.mp member with rfl | rfl
    · exact ⟨.spend oldCoin, List.mem_cons_self .., rfl⟩
    · exact ⟨.issuance newCoin, List.mem_cons_of_mem _ (List.mem_cons_self ..), rfl⟩
  · intro asset other
    rw [brought, paid, (coins asset).1, if_neg other.symm, if_neg other.symm]
  · rw [brought, paid, (coins _).1, (coins _).2, if_pos rfl, if_pos rfl, if_neg different]
    rfl

theorem walk_exact_of_exchange :
    ∃ graph walked tally, exchange.graph 100 = .ok graph ∧
      graph.walk exchangeView AssetId.native graph.nodes
        (Meter.opening 100 100 Setting.metered.params false) .start = .ok (walked, tally) ∧
      tally.checkFee AssetId.native graph.header.fee = .ok () := by
  obtain ⟨graph, made⟩ : ∃ graph, exchange.graph 100 = .ok graph :=
    (exists_graph_iff 100).mpr (by decide)
  have nodes : graph.nodes.length = 5 := by
    rw [Graph.length_nodes (Graph.length_ids_of_build (graph_eq_ok made)),
      entries_of_graph made]
    rfl
  have enough :
      graph.nodes.length * (Meter.opening 100 100 Setting.metered.params false).visitCost ≤
        (Meter.opening 100 100 Setting.metered.params false).remaining := by
    rw [nodes]
    decide
  obtain ⟨walked, tally, finished, checked⟩ :=
    (walk_exact made backed_exchange rfl enough).mpr balances_exchange
  exact ⟨graph, walked, tally, made, finished, checked⟩

end EntryLedger.Transaction
