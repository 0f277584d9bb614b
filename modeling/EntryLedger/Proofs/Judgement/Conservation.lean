import EntryLedger.Proofs.Judgement.Accepted

/-!
# Conservation of value

Nothing compares what a transaction brings in with what leaves it.  Each mux is
balanced on its own, and each link is compared with the link at its other end.
Over all entries, though, sources and destinations carry the same values; what
remains when they cancel is the value that is brought in, the value that is
received, and the rest of the native asset that the muxes left, which is the
fee.
-/

namespace EntryLedger

namespace Entry

/-- The value that an entry brings in, which for a spend is the value that the
ledger records. -/
def brought? (view : LedgerView) : Entry → Option Value
  | .spend body => view.output? body.spentOutput
  | .issuance body => some body.value
  | .coinbase body => body.destination.map Link.value
  | .mux _ | .output _ | .retirement _ => none

/-- The value that leaves the transaction at an entry. -/
def received? : Entry → Option Value
  | .output body => some body.source.value
  | .retirement body => some body.source.value
  | .mux _ | .spend _ | .issuance _ | .coinbase _ => none

end Entry

theorem Value.total_append (front back : List Value) (asset : AssetId) :
    Value.total (front ++ back) asset = Value.total front asset + Value.total back asset := by
  simp [Value.total]

theorem Value.total_flatMap_cons (part : Entry → List Value) (entry : Entry)
    (entries : List Entry) (asset : AssetId) :
    Value.total ((entry :: entries).flatMap part) asset =
      Value.total (part entry) asset + Value.total (entries.flatMap part) asset := by
  rw [List.flatMap_cons, Value.total_append]

theorem Value.total_perm {left right : List Value} (perm : left.Perm right)
    (asset : AssetId) : Value.total left asset = Value.total right asset :=
  (perm.map _).sum_nat

/-- What a tally has left of an asset. -/
def Tally.left (tally : Tally) (native asset : AssetId) : Int :=
  if asset = native then tally.residual else 0

namespace Graph

variable {graph : Graph} {view : LedgerView} {native : AssetId}

/-- The flow at one entry: what it takes and brings in, it gives or lets be
received, or leaves in the tally. -/
theorem flow_of_examine {before after : Tally} {index : Nat} {entry : Entry}
    (examined : graph.examine view native before index entry = .ok after)
    (asset : AssetId) :
    after.left native asset + Link.total entry.destinations asset +
        Value.total entry.received?.toList asset =
      before.left native asset + Link.total entry.sources asset +
        Value.total (entry.brought? view).toList asset := by
  cases learns_of_examine examined with
  | output body => simp [Entry.sources, Entry.destinations, Entry.received?, Entry.brought?]
  | retirement body =>
      simp [Entry.sources, Entry.destinations, Entry.received?, Entry.brought?]
  | coinbase destined =>
      simp [Entry.sources, Entry.destinations, Entry.received?, Entry.brought?, destined]
  | spend destined unused recorded =>
      simp [Tally.left, Entry.sources, Entry.destinations, Entry.received?, Entry.brought?,
        destined, recorded]
  | issuance destined supplied defined same =>
      simp [Tally.left, Entry.sources, Entry.destinations, Entry.received?, Entry.brought?,
        destined, same]
  | mux balanced =>
      -- Only a mux moves what is left, and only of the native asset.
      obtain ⟨-, -, left, others⟩ := balanceMux_eq_ok balanced
      simp only [Tally.left, Entry.sources, Entry.destinations, Entry.received?,
        Entry.brought?, Option.toList_none, Value.total_nil]
      by_cases isNative : asset = native
      · subst isNative
        rw [if_pos rfl, if_pos rfl, left]
        push_cast
        omega
      · rw [if_neg isNative, if_neg isNative, others asset isNative]

theorem Visits.flow {nodes : List (Nat × EntryId × Entry)} {before after : Tally}
    (visits : graph.Visits view native nodes before after) (asset : AssetId) :
    let entries := nodes.map fun node => node.2.2
    after.left native asset +
          Value.total (entries.flatMap fun entry => entry.destinations.map Link.value) asset +
        Value.total (entries.flatMap fun entry => entry.received?.toList) asset =
      before.left native asset +
          Value.total (entries.flatMap fun entry => entry.sources.map Link.value) asset +
        Value.total (entries.flatMap fun entry => (entry.brought? view).toList) asset := by
  induction visits with
  | done tally => simp
  | visit examined rest ih =>
      have here := flow_of_examine examined asset
      simp only [Link.total, List.map_cons, Value.total_flatMap_cons] at here ih ⊢
      push_cast
      omega

/-- Over a whole graph the links cancel: what is brought in is received or left
in the tally. -/
theorem Visits.left_eq {tally : Tally}
    (visits : graph.Visits view native graph.nodes .start tally)
    (identified : graph.ids.length = graph.entries.length) (asset : AssetId) :
    tally.left native asset + Value.total (graph.entries.filterMap Entry.received?) asset =
      Value.total (graph.entries.filterMap (Entry.brought? view)) asset := by
  have flow := visits.flow asset
  have edges := Value.total_perm (source_values_perm (visits.crossChecked identified)) asset
  have start : Tally.start.left native asset = 0 := by
    simp [Tally.left, Tally.start]
  simp only [map_entry_nodes identified, edges, start] at flow
  rw [List.filterMap_eq_flatMap_toList, List.filterMap_eq_flatMap_toList]
  omega

/-- An entry that brings value in and passes brings some value in. -/
theorem isSome_brought_of_examine {before after : Tally} {index : Nat} {entry : Entry}
    (examined : graph.examine view native before index entry = .ok after)
    (input : entry.isInput = true) : (entry.brought? view).isSome = true := by
  cases learns_of_examine examined with
  | spend destined unused recorded => simp [Entry.brought?, recorded]
  | issuance destined supplied defined same => rfl
  | coinbase destined => simp [Entry.brought?, destined]
  | mux balanced => cases input
  | output body => cases input
  | retirement body => cases input

/-- Every input of an accepted transaction brings some value in, and of every
asset as much is brought in as is received; of the native asset the fee is
brought in besides. -/
theorem conserves_value {header : Header} {entries : List Entry} {results : List Nat}
    {setting : Setting} {gasUsed visited : Nat}
    (built : build header entries results = .ok graph)
    (valid : (graph.judge view setting).outcome = .ok (.valid gasUsed visited)) :
    (∀ entry ∈ entries, entry.isInput = true → (entry.brought? view).isSome = true) ∧
      ∀ asset, Value.total (entries.filterMap (Entry.brought? view)) asset =
        Value.total (entries.filterMap Entry.received?) asset +
          if asset = setting.params.nativeAsset then header.fee.toNat else 0 := by
  have identified := length_ids_of_build built
  have sameEntries := entries_of_build built
  obtain ⟨tally, visits, feeLeft⟩ := visits_of_valid valid
  rw [header_of_build built] at feeLeft
  constructor
  · intro entry member input
    rw [← sameEntries, List.mem_iff_getElem?] at member
    obtain ⟨place, found⟩ := member
    obtain ⟨id, node⟩ := exists_node identified found
    obtain ⟨_, _, examined⟩ := visits.exists_examine (List.mem_of_getElem? node)
    exact isSome_brought_of_examine examined input
  · intro asset
    have left := visits.left_eq identified asset
    rw [sameEntries, Tally.left, feeLeft] at left
    by_cases isNative : asset = setting.params.nativeAsset
    · rw [if_pos isNative] at left ⊢
      omega
    · rw [if_neg isNative] at left ⊢
      omega

end Graph

/-! ### Two muxes that share the fee -/

namespace Conservation

private def native (amount : UInt64) : Value :=
  { asset := AssetId.native, amount := amount }

private def link (entry : Nat) (amount : UInt64) : Link :=
  { entry := entry, value := native amount, position := 0 }

private def spend (output : UInt8) (mux : Nat) (amount : UInt64) : Entry :=
  .spend {
    spentOutput := Digest.filled output
    program := Transaction.muxProgram
    destination := some (link mux amount)
    arguments := []
    ordinal := 0 }

private def mux (source destination : Link) : Entry :=
  .mux {
    sources := [source]
    program := Transaction.muxProgram
    destinations := [destination]
    arguments := [] }

/-- The first mux gives out five more than it takes in, the second one 105
less. -/
def twoMuxes : List Entry :=
  [spend 1 1 10, mux (link 0 10) (link 2 15),
    .output { source := link 1 15, program := Transaction.muxProgram, ordinal := 0 },
    spend 2 4 200, mux (link 3 200) (link 5 95),
    .retirement { source := link 4 95, ordinal := 1 }]

def twoMuxesHeader : Header where
  version := 1
  size := 1
  timeRange := { earliest := 0, latest := 0 }
  fee := 100

def twoMuxesView : LedgerView where
  output? := fun output =>
    if output = Digest.filled 1 then some (native 10)
    else if output = Digest.filled 2 then some (native 200)
    else none
  definition? := fun _ => none

end Conservation

open Conservation in
theorem Graph.conserves_value_of_twoMuxes :
    ∃ graph, Graph.build twoMuxesHeader twoMuxes [2, 5] = .ok graph ∧
      (graph.judge twoMuxesView .sample).outcome = .ok (.valid 40 6) ∧
      Value.total (twoMuxes.filterMap (Entry.brought? twoMuxesView)) AssetId.native =
        Value.total (twoMuxes.filterMap Entry.received?) AssetId.native + 100 := by
  have judged : (Graph.build twoMuxesHeader twoMuxes [2, 5]).toOption.bind (fun graph =>
      (graph.judge twoMuxesView .sample).outcome.toOption) = some (.valid 40 6) := by
    decide +kernel
  obtain ⟨graph, built, valid⟩ := Option.bind_eq_some_iff.mp judged
  have built := Checks.toOption_eq_some.mp built
  have valid := Checks.toOption_eq_some.mp valid
  exact ⟨graph, built, valid, (Graph.conserves_value built valid).2 AssetId.native⟩

end EntryLedger
