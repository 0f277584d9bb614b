import EntryLedger.Proofs.Transaction.Entries

/-!
# Every transaction has a graph

The entries of a transaction lie in a fixed order: the inputs, the mux that they
feed, and what the transaction makes.  All references between them are right by
construction, so that only the number of its parts can keep a transaction from
having a graph.
-/

namespace EntryLedger

/-! ### Checks that succeed -/

namespace Graph

variable {entries : List Entry} {owner : Nat} {link : Link} {target : Entry}

/-- Places fit the word of positions. -/
theorem toNat_ofNat_place {place : Nat} (inside : place < maxEntries) :
    (UInt64.ofNat place).toNat = place := by
  apply UInt64.toNat_ofNat_of_lt'
  change place < 2 ^ 64
  simp only [maxEntries] at inside
  omega

theorem checkSource_eq_ok (earlier : link.entry < owner)
    (found : entries[link.entry]? = some target) (emits : target.kind.emits = true)
    (slot : link.position.toNat < target.destinationSlots) :
    checkSource entries owner link = .ok () := by
  rw [checkSource, if_neg (Nat.not_le_of_lt earlier), found]
  simp only [emits, Bool.true_eq_false, if_false, if_neg (Nat.not_le_of_lt slot)]

theorem checkDestination_eq_ok (other : link.entry ≠ owner)
    (found : entries[link.entry]? = some target) (accepts : target.kind.accepts = true)
    (slot : link.position.toNat < target.sourceSlots) :
    checkDestination entries owner link = .ok () := by
  rw [checkDestination, if_neg other, found]
  simp only [accepts, Bool.true_eq_false, if_false, if_neg (Nat.not_le_of_lt slot)]

theorem checkEntry_eq_ok {entry : Entry}
    (complete : entry.lacksDestination = false)
    (sources : ∀ link ∈ entry.sources, checkSource entries owner link = .ok ())
    (destinations : ∀ link ∈ entry.destinations,
      checkDestination entries owner link = .ok ()) :
    checkEntry entries owner entry = .ok () := by
  rw [checkEntry, if_neg (by rw [complete]; exact Bool.false_ne_true)]
  exact Checks.bind_eq_ok.mpr ⟨(), Checks.forM_eq_ok.mpr sources,
    Checks.forM_eq_ok.mpr destinations⟩

end Graph

/-! ### Inputs and payments as entries -/

namespace Input

variable (input : Input) (mux index : Nat)

theorem emits_kind_entry : (input.entry mux index).kind.emits = true := by
  cases input <;> rfl

theorem sources_entry : (input.entry mux index).sources = [] := by
  cases input <;> rfl

theorem destinations_entry :
    (input.entry mux index).destinations =
      [{ entry := mux, value := input.value, position := UInt64.ofNat index }] := by
  cases input <;> rfl

theorem lacksDestination_entry : (input.entry mux index).lacksDestination = false := by
  cases input <;> rfl

theorem destinationSlots_entry : (input.entry mux index).destinationSlots = 1 := by
  cases input <;> rfl

end Input

namespace Payment

variable (payment : Payment) (mux index : Nat)

theorem kind_entry :
    (payment.entry mux index).kind =
      if payment.program.isRetirement then .retirement else .output := by
  unfold entry
  split
  · rfl
  · rfl

theorem sources_entry :
    (payment.entry mux index).sources =
      [{ entry := mux, value := payment.value, position := UInt64.ofNat index }] := by
  unfold entry
  split
  · rfl
  · rfl

theorem destinations_entry : (payment.entry mux index).destinations = [] := by
  unfold entry
  split
  · rfl
  · rfl

theorem lacksDestination_entry : (payment.entry mux index).lacksDestination = false := by
  unfold entry
  split
  · rfl
  · rfl

theorem sourceSlots_entry : (payment.entry mux index).sourceSlots = 1 := by
  unfold entry
  split
  · rfl
  · rfl

end Payment

namespace Transaction

variable {transaction : Transaction}

theorem getElem?_entries_mux (transaction : Transaction) :
    transaction.entries[transaction.inputs.length]? = some (.mux transaction.mux) := by
  rw [entries, List.getElem?_append_right (by simp), List.length_mapIdx, Nat.sub_self]
  rfl

theorem getElem?_entries_payment {index : Nat} {payment : Payment}
    (found : transaction.outputs[index]? = some payment) :
    transaction.entries[transaction.inputs.length + 1 + index]? =
      some (payment.entry transaction.inputs.length index) := by
  have shifted : transaction.inputs.length + 1 + index - transaction.inputs.length =
      index + 1 := by omega
  rw [entries, List.getElem?_append_right (by simp only [List.length_mapIdx]; omega),
    List.length_mapIdx, shifted, List.getElem?_cons_succ, List.getElem?_mapIdx, found,
    Option.map_some]

/-- What lies at the places of a transaction. -/
inductive PlaceOf (transaction : Transaction) : Nat → Entry → Prop
  | input {index : Nat} {input : Input} (found : transaction.inputs[index]? = some input) :
      PlaceOf transaction index (input.entry transaction.inputs.length index)
  | mux : PlaceOf transaction transaction.inputs.length (.mux transaction.mux)
  | payment {index : Nat} {payment : Payment}
      (found : transaction.outputs[index]? = some payment) :
      PlaceOf transaction (transaction.inputs.length + 1 + index)
        (payment.entry transaction.inputs.length index)

theorem placeOf_of_getElem? {place : Nat} {entry : Entry}
    (entryAt : transaction.entries[place]? = some entry) : transaction.PlaceOf place entry := by
  have inside : place < transaction.entries.length := (List.getElem?_eq_some_iff.mp entryAt).1
  rw [length_entries] at inside
  rcases Nat.lt_trichotomy place transaction.inputs.length with before | rfl | after
  · have found := List.getElem?_eq_getElem before
    rw [getElem?_entries found] at entryAt
    obtain rfl := Option.some.inj entryAt
    exact .input found
  · rw [getElem?_entries_mux] at entryAt
    obtain rfl := Option.some.inj entryAt
    exact .mux
  · obtain ⟨index, rfl⟩ : ∃ index, place = transaction.inputs.length + 1 + index :=
      ⟨place - (transaction.inputs.length + 1), by omega⟩
    have found := List.getElem?_eq_getElem (show index < transaction.outputs.length by omega)
    rw [getElem?_entries_payment found] at entryAt
    obtain rfl := Option.some.inj entryAt
    exact .payment found

/-- Every entry of a transaction passes its checks. -/
theorem checkEntry_entries
    (few : transaction.inputs.length + transaction.outputs.length + 1 ≤ Graph.maxEntries)
    {place : Nat} {entry : Entry} (entryAt : transaction.entries[place]? = some entry) :
    Graph.checkEntry transaction.entries place entry = .ok () := by
  cases placeOf_of_getElem? entryAt with
  | @input index input found =>
      have inside := (List.getElem?_eq_some_iff.mp found).1
      apply Graph.checkEntry_eq_ok (input.lacksDestination_entry ..)
      · rw [Input.sources_entry]
        exact fun _ member => (List.not_mem_nil member).elim
      · intro link member
        rw [Input.destinations_entry, List.mem_singleton] at member
        subst member
        refine Graph.checkDestination_eq_ok ?_ (getElem?_entries_mux transaction) rfl ?_
        · simp only
          omega
        · simp only [Entry.sourceSlots, mux, List.length_mapIdx]
          rw [Graph.toNat_ofNat_place (by omega)]
          exact inside
  | mux =>
      apply Graph.checkEntry_eq_ok rfl
      · intro link member
        obtain ⟨index, inside, rfl⟩ := List.mem_mapIdx.mp member
        have found := List.getElem?_eq_getElem inside
        refine Graph.checkSource_eq_ok inside (getElem?_entries found)
          (Input.emits_kind_entry ..) ?_
        rw [Input.destinationSlots_entry]
        exact Nat.one_pos
      · intro link member
        obtain ⟨index, inside, rfl⟩ := List.mem_mapIdx.mp member
        have found := List.getElem?_eq_getElem inside
        refine Graph.checkDestination_eq_ok ?_ (getElem?_entries_payment found) ?_ ?_
        · simp only
          omega
        · rw [Payment.kind_entry]
          split
          · rfl
          · rfl
        · rw [Payment.sourceSlots_entry]
          exact Nat.one_pos
  | @payment index payment found =>
      have inside := (List.getElem?_eq_some_iff.mp found).1
      apply Graph.checkEntry_eq_ok (payment.lacksDestination_entry ..)
      · intro link member
        rw [Payment.sources_entry, List.mem_singleton] at member
        subst member
        refine Graph.checkSource_eq_ok ?_ (getElem?_entries_mux transaction) rfl ?_
        · simp only
          omega
        · simp only [Entry.destinationSlots, mux, List.length_mapIdx]
          rw [Graph.toNat_ofNat_place (by omega)]
          exact inside
      · rw [Payment.destinations_entry]
        exact fun _ member => (List.not_mem_nil member).elim

theorem checkResult_results {result : Nat} (member : result ∈ transaction.results) :
    Graph.checkResult transaction.entries result = .ok () := by
  obtain ⟨index, inside, rfl⟩ := List.mem_map.mp member
  obtain ⟨payment, found⟩ : ∃ payment, transaction.outputs[index]? = some payment :=
    ⟨_, List.getElem?_eq_getElem (List.mem_range.mp inside)⟩
  rw [Graph.checkResult, getElem?_entries_payment found, Option.map_some, Payment.kind_entry]
  by_cases retires : payment.program.isRetirement = true
  · rw [if_pos retires]
  · rw [if_neg retires]

/-- A transaction has a graph exactly when it has few enough parts. -/
theorem exists_graph_iff (size : UInt64) :
    (∃ graph, transaction.graph size = .ok graph) ↔
      transaction.inputs.length + transaction.outputs.length + 1 ≤ Graph.maxEntries := by
  constructor
  · rintro ⟨graph, made⟩
    unfold Transaction.graph at made
    split at made
    · cases made
    · omega
  · intro few
    rw [Transaction.graph, if_neg (by omega)]
    apply Graph.exists_build
    · rw [length_entries]
      omega
    · exact fun place entry => checkEntry_entries few
    · exact fun result => checkResult_results

end Transaction

end EntryLedger
