import Mathlib
import EntryLedger.Proofs.Graph.Identity
import EntryLedger.Transaction.Sealed

/-!
# Entries of a transaction

The graph of a transaction has the entries of its inputs first, each at the
place of its input.  However a transaction was sealed, its graph is built from
these entries.
-/

namespace EntryLedger

namespace Transaction

theorem graph_eq_ok {transaction : Transaction} {size : UInt64} {graph : Graph}
    (made : transaction.graph size = .ok graph) :
    Graph.build (transaction.header size) transaction.entries transaction.results =
      .ok graph := by
  unfold Transaction.graph at made
  split at made
  · cases made
  · exact made

/-- The entry at the place of an input is the one of that input. -/
theorem getElem?_entries {transaction : Transaction} {index : Nat} {input : Input}
    (found : transaction.inputs[index]? = some input) :
    transaction.entries[index]? =
      some (input.entry transaction.inputs.length index) := by
  have inside : index < transaction.inputs.length := (List.getElem?_eq_some_iff.mp found).1
  rw [entries, List.getElem?_append_left (by simpa using inside), List.getElem?_mapIdx,
    found, Option.map_some]

theorem length_entries (transaction : Transaction) :
    transaction.entries.length =
      transaction.inputs.length + 1 + transaction.outputs.length := by
  simp only [entries, List.length_append, List.length_mapIdx, List.length_cons]
  omega

end Transaction

namespace Sealed

/-- How sealed transactions come about. -/
inductive Made (tx : Sealed) : Prop
  | composed {transaction : Transaction} (made : ofTransaction transaction = .ok tx)
  | decoded {bytes : Bytes} {limit : UInt64} (made : decode bytes limit = .ok tx)

variable {tx : Sealed}

/-- Decoding keeps the length of the bytes and the transaction that they
encode. -/
theorem decode_eq_ok {bytes : Bytes} {limit : UInt64} :
    decode bytes limit = .ok tx ↔
      tx.size = UInt64.ofNat bytes.length ∧ tx.size ≠ 0 ∧ tx.size ≤ limit ∧
        Transaction.decode bytes = .ok tx.transaction ∧
        tx.transaction.graph tx.size = .ok tx.graph := by
  unfold decode
  by_cases wrong : UInt64.ofNat bytes.length = 0 ∨ limit < UInt64.ofNat bytes.length
  · simp only [if_pos wrong, Checks.throw_eq_error, Checks.error_bind, reduceCtorEq,
      false_iff]
    rintro ⟨measured, positive, small, -⟩
    rw [← measured] at wrong
    rcases wrong with empty | large
    · exact positive empty
    · exact UInt64.not_le.mpr large small
  · simp only [if_neg wrong]
    rw [not_or, UInt64.not_lt] at wrong
    obtain ⟨transaction, size, graph⟩ := tx
    cases decoded : Transaction.decode bytes with
    | error flaw => simp
    | ok found =>
        simp only [Checks.bind_eq_ok, Checks.pure_eq_ok, Except.ok.injEq, mk.injEq]
        constructor
        · rintro ⟨_, built, rfl, rfl, rfl⟩
          exact ⟨rfl, wrong.1, wrong.2, rfl, built⟩
        · rintro ⟨rfl, -, -, rfl, built⟩
          exact ⟨graph, built, rfl, rfl, rfl⟩

theorem Made.graph_eq (made : tx.Made) : tx.transaction.graph tx.size = .ok tx.graph := by
  cases made with
  | composed made =>
      simp only [ofTransaction, Checks.bind_eq_ok, Checks.pure_eq_ok, Except.ok.injEq] at made
      obtain ⟨graph, built, rfl⟩ := made
      exact built
  | decoded made =>
      obtain ⟨-, -, -, -, built⟩ := decode_eq_ok.mp made
      exact built

/-- The graph of a sealed transaction is built from its entries. -/
theorem Made.built (made : tx.Made) :
    Graph.build (tx.transaction.header tx.size) tx.transaction.entries
      tx.transaction.results = .ok tx.graph :=
  Transaction.graph_eq_ok made.graph_eq

theorem Made.node (made : tx.Made) {index : Nat} {input : Input}
    (found : tx.transaction.inputs[index]? = some input) :
    ∃ id, tx.graph.nodes[index]? =
      some (index, id, input.entry tx.transaction.inputs.length index) := by
  apply Graph.exists_node (Graph.length_ids_of_build made.built)
  rw [Graph.entries_of_build made.built]
  exact Transaction.getElem?_entries found

/-- Places of inputs fit the word of positions. -/
theorem Made.index_lt (made : tx.Made) {index : Nat} {input : Input}
    (found : tx.transaction.inputs[index]? = some input) : index < 2 ^ 64 := by
  obtain ⟨few, -⟩ := Graph.build_eq_ok.mp made.built
  have inside : index < tx.transaction.inputs.length := (List.getElem?_eq_some_iff.mp found).1
  rw [Transaction.length_entries, Graph.maxEntries] at few
  omega

end Sealed

end EntryLedger
