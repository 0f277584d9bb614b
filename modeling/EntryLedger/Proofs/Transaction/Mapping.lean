import EntryLedger.Proofs.Judgement.Mismatch
import EntryLedger.Proofs.Judgement.Muxes
import EntryLedger.Proofs.Judgement.Permanence
import EntryLedger.Proofs.Transaction.Composition

/-!
# The graph of a transaction agrees with itself

The entries of a transaction tell of every passage of value twice, at the input or output
and at the mux.  Both ends are computed from the same numbers, so that all cross-checks
pass.  What is left for an examination to object to is what the ledger says, an output
that is spent twice, and the account of the mux.
-/

namespace EntryLedger

namespace Transaction

variable {transaction : Transaction} {size : UInt64} {graph : Graph} {view : LedgerView}
  {native : AssetId}

theorem entries_of_graph (made : transaction.graph size = .ok graph) :
    graph.entries = transaction.entries :=
  Graph.entries_of_build (graph_eq_ok made)

theorem getElem?_sources_mux {index : Nat} {input : Input}
    (found : transaction.inputs[index]? = some input) :
    transaction.mux.sources[index]? =
      some { entry := index, value := input.value, position := 0 } := by
  rw [mux, List.getElem?_mapIdx, found, Option.map_some]

theorem getElem?_destinations_mux {index : Nat} {payment : Payment}
    (found : transaction.outputs[index]? = some payment) :
    transaction.mux.destinations[index]? =
      some {
        entry := transaction.inputs.length + 1 + index
        value := payment.value
        position := 0 } := by
  rw [mux, List.getElem?_mapIdx, found, Option.map_some]

theorem values_sources_mux (transaction : Transaction) :
    transaction.mux.sources.map Link.value = transaction.inputs.map Input.value := by
  apply List.ext_getElem?
  intro index
  rw [mux, List.getElem?_map, List.getElem?_mapIdx, Option.map_map, List.getElem?_map]
  rfl

theorem values_destinations_mux (transaction : Transaction) :
    transaction.mux.destinations.map Link.value = transaction.outputs.map Payment.value := by
  apply List.ext_getElem?
  intro index
  rw [mux, List.getElem?_map, List.getElem?_mapIdx, Option.map_map, List.getElem?_map]
  rfl

/-! ### Cross-checks -/

section Made

variable (made : transaction.graph size = .ok graph)
include made

theorem getElem?_graph (place : Nat) :
    graph.entries[place]? = transaction.entries[place]? := by
  rw [entries_of_graph made]

/-- Places of inputs and outputs fit the word of positions. -/
theorem toNat_ofNat_place {index : Nat}
    (inside : index < transaction.inputs.length ∨ index < transaction.outputs.length) :
    (UInt64.ofNat index).toNat = index := by
  have few := (exists_graph_iff size).mp ⟨graph, made⟩
  exact Graph.toNat_ofNat_place (by omega)

theorem crossSource_input {index : Nat} {input : Input}
    (found : transaction.inputs[index]? = some input) :
    graph.crossSource transaction.inputs.length index
      { entry := index, value := input.value, position := 0 } = .ok () := by
  have inside := (List.getElem?_eq_some_iff.mp found).1
  have present := (getElem?_graph made index).trans (getElem?_entries found)
  have back := congrArg (·[0]?) (input.destinations_entry transaction.inputs.length index)
  exact Graph.crossSource_eq_ok.mpr
    ⟨_, _, present, back, rfl, toNat_ofNat_place made (.inl inside), rfl⟩

theorem crossDestination_input {index : Nat} {input : Input}
    (found : transaction.inputs[index]? = some input) :
    graph.crossDestination index 0 {
      entry := transaction.inputs.length
      value := input.value
      position := UInt64.ofNat index } = .ok () := by
  have inside := (List.getElem?_eq_some_iff.mp found).1
  have present := (getElem?_graph made _).trans (getElem?_entries_mux transaction)
  have back := (congrArg (transaction.mux.sources[·]?)
    (toNat_ofNat_place made (.inl inside))).trans (getElem?_sources_mux found)
  exact Graph.crossDestination_eq_ok.mpr ⟨_, _, present, back, rfl, rfl, rfl⟩

theorem crossSource_payment {index : Nat} {payment : Payment}
    (found : transaction.outputs[index]? = some payment) :
    graph.crossSource (transaction.inputs.length + 1 + index) 0 {
      entry := transaction.inputs.length
      value := payment.value
      position := UInt64.ofNat index } = .ok () := by
  have inside := (List.getElem?_eq_some_iff.mp found).1
  have present := (getElem?_graph made _).trans (getElem?_entries_mux transaction)
  have back := (congrArg (transaction.mux.destinations[·]?)
    (toNat_ofNat_place made (.inr inside))).trans (getElem?_destinations_mux found)
  exact Graph.crossSource_eq_ok.mpr ⟨_, _, present, back, rfl, rfl, rfl⟩

theorem crossDestination_payment {index : Nat} {payment : Payment}
    (found : transaction.outputs[index]? = some payment) :
    graph.crossDestination transaction.inputs.length index {
      entry := transaction.inputs.length + 1 + index
      value := payment.value
      position := 0 } = .ok () := by
  have inside := (List.getElem?_eq_some_iff.mp found).1
  have present := (getElem?_graph made _).trans (getElem?_entries_payment found)
  have back := congrArg (·[0]?) (payment.sources_entry transaction.inputs.length index)
  exact Graph.crossDestination_eq_ok.mpr
    ⟨_, _, present, back, rfl, toNat_ofNat_place made (.inr inside), rfl⟩

/-- Whatever its size, a transaction that has a graph passes every cross-check. -/
theorem crossChecked_of_graph : graph.CrossChecked := by
  have entries := entries_of_graph made
  have only {first link : Link} {slot : Nat} (slotted : [first][slot]? = some link) :
      slot = 0 ∧ first = link := by
    cases slot with
    | zero => exact ⟨rfl, Option.some.inj slotted⟩
    | succ slot => cases slotted
  constructor
  · intro owner entry slot link present slotted
    cases placeOf_of_getElem? (entries ▸ present) with
    | input found =>
        rw [Input.sources_entry] at slotted
        cases slotted
    | mux =>
        have inside : slot < transaction.inputs.length := by
          have bound := (List.getElem?_eq_some_iff.mp slotted).1
          rwa [Entry.sources, mux, List.length_mapIdx] at bound
        have found := List.getElem?_eq_getElem inside
        rw [Entry.sources, getElem?_sources_mux found] at slotted
        obtain rfl := Option.some.inj slotted
        exact crossSource_input made found
    | payment found =>
        rw [Payment.sources_entry] at slotted
        obtain ⟨rfl, rfl⟩ := only slotted
        exact crossSource_payment made found
  · intro owner entry slot link present slotted
    cases placeOf_of_getElem? (entries ▸ present) with
    | input found =>
        rw [Input.destinations_entry] at slotted
        obtain ⟨rfl, rfl⟩ := only slotted
        exact crossDestination_input made found
    | mux =>
        have inside : slot < transaction.outputs.length := by
          have bound := (List.getElem?_eq_some_iff.mp slotted).1
          rwa [Entry.destinations, mux, List.length_mapIdx] at bound
        have found := List.getElem?_eq_getElem inside
        rw [Entry.destinations, getElem?_destinations_mux found] at slotted
        obtain rfl := Option.some.inj slotted
        exact crossDestination_payment made found
    | payment found =>
        rw [Payment.destinations_entry] at slotted
        cases slotted

end Made

/-! ### Objections -/

/-- How a transaction can disagree with the ledger or with itself. -/
inductive Disagrees (transaction : Transaction) (view : LedgerView) : Cause → Prop
  | respent {first second : Nat} {spend spend' : SpendInput} (before : first < second)
      (found : transaction.inputs[first]? = some (.spend spend))
      (found' : transaction.inputs[second]? = some (.spend spend'))
      (same : spend.spentOutput = spend'.spentOutput) :
      Disagrees transaction view .mismatchedReference
  | foreign {spend : SpendInput} {recorded : Value}
      (member : .spend spend ∈ transaction.inputs)
      (known : view.output? spend.spentOutput = some recorded)
      (differs : recorded.asset ≠ spend.value.asset) :
      Disagrees transaction view (.mismatchedAsset recorded.asset spend.value.asset)
  | misvalued {spend : SpendInput} {recorded : Value}
      (member : .spend spend ∈ transaction.inputs)
      (known : view.output? spend.spentOutput = some recorded)
      (same : recorded.asset = spend.value.asset)
      (differs : recorded.amount ≠ spend.value.amount) :
      Disagrees transaction view (.mismatchedValue recorded.amount spend.value.amount)
  | misdefined {issuance : IssuanceInput} {definition : Definition}
      (member : .issuance issuance ∈ transaction.inputs)
      (supplied : issuance.definition.or (view.definition? issuance.value.asset) =
        some definition)
      (differs : issuance.value.asset ≠ definition.assetId) :
      Disagrees transaction view
        (.mismatchedAsset issuance.value.asset definition.assetId)

/-- What can be wrong with an entry of a transaction. -/
inductive Objects (transaction : Transaction) (view : LedgerView) (native : AssetId)
    (cause : Cause) : Prop
  | disagrees (disagrees : transaction.Disagrees view cause)
  | orphan {spend : SpendInput} (member : .spend spend ∈ transaction.inputs)
      (unknown : view.output? spend.spentOutput = none)
      (orphaned : cause = .orphanInput spend.spentOutput)
  | undefined {issuance : IssuanceInput} (member : .issuance issuance ∈ transaction.inputs)
      (unknown : issuance.definition.or (view.definition? issuance.value.asset) = none)
      (missing : cause = .missingField .definition)
  | unbalanced (refused : Balance.account native (transaction.inputs.map Input.value)
      (transaction.outputs.map Payment.value) 0 = .error cause)

theorem disagrees_of_checkValue {spend : SpendInput} {recorded : Value} {cause : Cause}
    (member : .spend spend ∈ transaction.inputs)
    (known : view.output? spend.spentOutput = some recorded)
    (failed : checkValue recorded spend.value = .error cause) :
    transaction.Disagrees view cause := by
  unfold checkValue at failed
  split at failed
  · rename_i differs
    cases failed
    exact .foreign member known differs
  · rename_i same
    split at failed
    · rename_i differs
      cases failed
      exact .misvalued member known (not_not.mp same) differs
    · cases failed

/-- Only a disagreement is a mismatch. -/
theorem Objects.disagrees_of_isMismatch {cause : Cause}
    (objects : transaction.Objects view native cause) (mismatch : cause.isMismatch = true) :
    transaction.Disagrees view cause := by
  cases objects with
  | disagrees disagrees => exact disagrees
  | orphan member unknown orphaned =>
      subst orphaned
      cases mismatch
  | undefined member unknown missing =>
      subst missing
      cases mismatch
  | unbalanced refused =>
      have plain := (Balance.refuses_account _ _ _ _ _ refused).plain
      cases mismatch.symm.trans plain

section Made

variable (made : transaction.graph size = .ok graph)
include made

/-- A coinbase is examined for nothing but its link. -/
theorem examine_coinbase {tally : Tally} {index : Nat} {coinbase : CoinbaseInput}
    (found : transaction.inputs[index]? = some (.coinbase coinbase)) :
    graph.examine view native tally index
      ((Input.coinbase coinbase).entry transaction.inputs.length index) = .ok tally := by
  simp only [Input.entry, Graph.examine, requireDestination, Checks.ok_bind]
  rw [crossDestination_input made found]
  rfl

/-- Neither is an output or a retirement. -/
theorem examine_payment {tally : Tally} {index : Nat} {payment : Payment}
    (found : transaction.outputs[index]? = some payment) :
    graph.examine view native tally (transaction.inputs.length + 1 + index)
      (payment.entry transaction.inputs.length index) = .ok tally := by
  have crossed := crossSource_payment made found
  unfold Payment.entry
  split
  · rw [Graph.examine, crossed]
    rfl
  · rw [Graph.examine, crossed]
    rfl

/-- A spend is examined for its output, which no entry before may use, and for its value. -/
theorem objects_of_spend {tally : Tally} {index : Nat} {spend : SpendInput} {cause : Cause}
    (found : transaction.inputs[index]? = some (.spend spend))
    (failed : graph.examine view native tally index
      ((Input.spend spend).entry transaction.inputs.length index) = .error cause) :
    (spend.spentOutput ∈ tally.spent ∧ cause = .mismatchedReference) ∨
      transaction.Objects view native cause := by
  simp only [Input.entry, Graph.examine, Graph.checkSpend, requireDestination,
    Checks.ok_bind] at failed
  by_cases used : spend.spentOutput ∈ tally.spent
  · rw [if_pos used] at failed
    cases failed
    exact .inl ⟨used, rfl⟩
  · rw [if_neg used] at failed
    cases known : view.output? spend.spentOutput with
    | none =>
        rw [known] at failed
        cases failed
        exact .inr (.orphan (List.mem_of_getElem? found) known rfl)
    | some recorded =>
        rw [known] at failed
        rcases Checks.bind_eq_error.mp failed with differs | ⟨_, -, later⟩
        · exact .inr (.disagrees
            (disagrees_of_checkValue (List.mem_of_getElem? found) known differs))
        · have crossed := crossDestination_input made found
          rw [crossed] at later
          cases later

/-- An issuance is examined for its definition. -/
theorem objects_of_issuance {tally : Tally} {index : Nat} {issuance : IssuanceInput}
    {cause : Cause} (found : transaction.inputs[index]? = some (.issuance issuance))
    (failed : graph.examine view native tally index
      ((Input.issuance issuance).entry transaction.inputs.length index) = .error cause) :
    transaction.Objects view native cause := by
  simp only [Input.entry, Graph.examine, Graph.checkIssuance, requireDestination,
    Checks.ok_bind] at failed
  cases supplied : issuance.definition.or (view.definition? issuance.value.asset) with
  | none =>
      rw [supplied] at failed
      cases failed
      exact .undefined (List.mem_of_getElem? found) supplied rfl
  | some definition =>
      simp only [supplied] at failed
      by_cases differs : definition.assetId ≠ issuance.value.asset
      · rw [if_pos differs] at failed
        cases failed
        exact .disagrees (.misdefined (List.mem_of_getElem? found) supplied differs.symm)
      · rw [if_neg differs] at failed
        -- What is issued is what is passed on.
        have agrees : checkValue issuance.value (Input.issuance issuance).value = .ok () :=
          checkValue_eq_ok.mpr rfl
        rw [agrees] at failed
        have crossed := crossDestination_input made found
        rw [Checks.ok_bind, crossed] at failed
        cases failed

/-- An account of the values of a transaction is all that its mux is examined for. -/
theorem balanceMux_eq_account (residual : Int) :
    graph.balanceMux native transaction.inputs.length transaction.mux residual =
      Balance.account native (transaction.inputs.map Input.value)
        (transaction.outputs.map Payment.value) residual := by
  have present := (getElem?_graph made _).trans (getElem?_entries_mux transaction)
  rw [Graph.balanceMux_eq_account (crossChecked_of_graph made) present, values_sources_mux,
    values_destinations_mux]

theorem placeOf_of_mem_nodes {node : Nat × EntryId × Entry} (member : node ∈ graph.nodes) :
    transaction.PlaceOf node.1 node.2.2 :=
  placeOf_of_getElem? ((getElem?_graph made _).symm.trans (Graph.getElem?_of_mem_nodes member))

end Made

theorem exists_spend_of_placeOf {place : Nat} {entry : Entry} {output : Digest}
    (placed : transaction.PlaceOf place entry) (uses : entry.spentOutput? = some output) :
    ∃ spend, transaction.inputs[place]? = some (.spend spend) ∧
      spend.spentOutput = output := by
  cases placed with
  | @input index input found =>
      cases input with
      | spend spend => exact ⟨spend, found, Option.some.inj uses⟩
      | issuance | coinbase => cases uses
  | mux => cases uses
  | payment found =>
      unfold Payment.entry at uses
      split at uses
      · cases uses
      · cases uses

/-- The only mux lies between the inputs and the outputs. -/
theorem eq_of_placeOf_mux {place : Nat} {entry : Entry} {body : Mux}
    (placed : transaction.PlaceOf place entry) (isMux : entry = .mux body) :
    place = transaction.inputs.length := by
  cases placed with
  | @input index input found =>
      cases input with
      | spend | issuance | coinbase => cases isMux
  | mux => rfl
  | payment found =>
      unfold Payment.entry at isMux
      split at isMux
      · cases isMux
      · cases isMux

section Around

variable {place : Nat} {id : EntryId} {entry : Entry}
  {front back : List (Nat × EntryId × Entry)}
  (made : transaction.graph size = .ok graph)
  (parts : graph.nodes = front ++ (place, id, entry) :: back)
include made parts

/-- The nodes before and behind a node are those of earlier and later places. -/
theorem placeOf_around : transaction.PlaceOf place entry ∧
    (∀ node ∈ front, node.1 < place ∧ transaction.PlaceOf node.1 node.2.2) ∧
    ∀ node ∈ back, place < node.1 ∧ transaction.PlaceOf node.1 node.2.2 := by
  have ordered := graph.pairwise_nodes
  have placed (node : Nat × EntryId × Entry) (member : node ∈ graph.nodes) :=
    placeOf_of_mem_nodes made member
  rw [parts] at ordered placed
  obtain ⟨-, later, earlier⟩ := List.pairwise_append.mp ordered
  refine ⟨placed (place, id, entry) (List.mem_append_right _ (List.mem_cons_self ..)), ?_, ?_⟩
  · exact fun node member => ⟨earlier node member _ (List.mem_cons_self ..),
      placed node (List.mem_append_left _ member)⟩
  · exact fun node member => ⟨(List.pairwise_cons.mp later).1 node member,
      placed node (List.mem_append_right _ (List.mem_cons_of_mem _ member))⟩

theorem muxless_around (between : place = transaction.inputs.length) :
    (∀ node ∈ front, ∀ body, node.2.2 ≠ .mux body) ∧
      ∀ node ∈ back, ∀ body, node.2.2 ≠ .mux body := by
  obtain ⟨-, before, after⟩ := placeOf_around made parts
  constructor
  · intro node member body isMux
    obtain ⟨earlier, placed⟩ := before node member
    have here := eq_of_placeOf_mux placed isMux
    omega
  · intro node member body isMux
    obtain ⟨later, placed⟩ := after node member
    have here := eq_of_placeOf_mux placed isMux
    omega

end Around

/-- Wherever a walk stops, there is an objection to the entry. -/
theorem objects_of_stops {id : EntryId} {cause : Cause}
    (made : transaction.graph size = .ok graph)
    (stops : graph.Stops view native graph.nodes .start id cause) :
    transaction.Objects view native cause := by
  obtain ⟨front, place, entry, back, earlier, parts, visits, failed⟩ := stops
  obtain ⟨placedHere, before, -⟩ := placeOf_around made parts
  cases placedHere with
  | @input index input found =>
      cases input with
      | spend spend =>
          rcases objects_of_spend made found failed with ⟨used, rfl⟩ | objects
          · rcases visits.exists_of_spent used with known | ⟨node, member, uses⟩
            · cases known
            · obtain ⟨first, placed⟩ := before node member
              obtain ⟨spend', found', same⟩ := exists_spend_of_placeOf placed uses
              exact .disagrees (.respent first found' found same)
          · exact objects
      | issuance issuance => exact objects_of_issuance made found failed
      | coinbase coinbase =>
          rw [examine_coinbase made found] at failed
          cases failed
  | mux =>
      have nothing : earlier.residual = 0 :=
        visits.residual_eq (muxless_around made parts rfl).1
      rcases Checks.bind_eq_error.mp failed with unbalanced | ⟨_, -, impossible⟩
      · rw [balanceMux_eq_account made, nothing] at unbalanced
        exact .unbalanced unbalanced
      · cases impossible
  | payment found =>
      rw [examine_payment made found] at failed
      cases failed

/-- A transaction with few enough parts has a graph whose cross-checks all pass.  Hence it
is rejected for a mismatched reference only if it spends an output twice, for a mismatched
amount only if the ledger records another amount, for a mismatched asset only if the ledger
records another asset or the definition is one of another asset, and never for a position. -/
theorem mapping_wellFormed (transaction : Transaction) (size : UInt64)
    (few : transaction.inputs.length + transaction.outputs.length + 1 ≤ Graph.maxEntries) :
    ∃ graph, transaction.graph size = .ok graph ∧ graph.CrossChecked ∧
      ∀ (view : LedgerView) (setting : Setting) (rejection : Rejection),
        (graph.judge view setting).outcome = .ok (.invalid rejection) →
        (rejection.cause = .mismatchedReference →
          ∃ (first second : Nat) (spend spend' : SpendInput), first < second ∧
            transaction.inputs[first]? = some (.spend spend) ∧
            transaction.inputs[second]? = some (.spend spend') ∧
            spend.spentOutput = spend'.spentOutput) ∧
        (∀ expected found, rejection.cause = .mismatchedValue expected found →
          ∃ spend recorded, Input.spend spend ∈ transaction.inputs ∧
            view.output? spend.spentOutput = some recorded ∧
            recorded.asset = spend.value.asset ∧ recorded.amount = expected ∧
            spend.value.amount = found ∧ expected ≠ found) ∧
        (∀ expected found, rejection.cause = .mismatchedAsset expected found →
          (∃ spend recorded, Input.spend spend ∈ transaction.inputs ∧
            view.output? spend.spentOutput = some recorded ∧
            recorded.asset = expected ∧ spend.value.asset = found ∧ expected ≠ found) ∨
          ∃ issuance definition, Input.issuance issuance ∈ transaction.inputs ∧
            issuance.definition.or (view.definition? issuance.value.asset) =
              some definition ∧
            issuance.value.asset = expected ∧ definition.assetId = found ∧
            expected ≠ found) ∧
        (∀ expected found, rejection.cause ≠ .mismatchedPosition expected found) ∧
        ∀ position, rejection.cause ≠ .positionOutOfRange position := by
  obtain ⟨graph, made⟩ := (exists_graph_iff size).mpr few
  refine ⟨graph, made, crossChecked_of_graph made, fun view setting rejection rejected => ?_⟩
  have disagrees (mismatch : rejection.cause.isMismatch = true) :
      transaction.Disagrees view rejection.cause := by
    obtain ⟨id, -, stops⟩ := Graph.stops_of_mismatch rejected mismatch
    exact (objects_of_stops made stops).disagrees_of_isMismatch mismatch
  generalize rejection.cause = cause at disagrees
  refine ⟨?_, ?_, ?_, ?_, ?_⟩
  · rintro rfl
    cases disagrees rfl with
    | respent before found found' same => exact ⟨_, _, _, _, before, found, found', same⟩
  · rintro expected found rfl
    cases disagrees rfl with
    | misvalued member known same differs =>
        exact ⟨_, _, member, known, same, rfl, rfl, differs⟩
  · rintro expected found rfl
    cases disagrees rfl with
    | foreign member known differs => exact .inl ⟨_, _, member, known, rfl, rfl, differs⟩
    | misdefined member supplied differs =>
        exact .inr ⟨_, _, member, supplied, rfl, rfl, differs⟩
  · rintro expected found rfl
    cases disagrees rfl
  · rintro position rfl
    cases disagrees rfl

/-! ### An output that is spent twice -/

open Authorisation in
/-- A transaction that spends the same output twice. -/
def doubled : Transaction :=
  { exchange with inputs := [.spend oldCoin, .spend oldCoin] }

open Authorisation Permanence in
theorem mapping_wellFormed_of_doubled :
    doubled.inputs.length + doubled.outputs.length + 1 ≤ Graph.maxEntries ∧
      ∃ graph rejection, doubled.graph 100 = .ok graph ∧ graph.CrossChecked ∧
        (graph.judge exchangeView .sample).outcome = .ok (.invalid rejection) ∧
        rejection.cause = .mismatchedReference ∧
        ∃ (first second : Nat) (spend spend' : SpendInput), first < second ∧
          doubled.inputs[first]? = some (.spend spend) ∧
          doubled.inputs[second]? = some (.spend spend') ∧
          spend.spentOutput = spend'.spentOutput := by
  have few : doubled.inputs.length + doubled.outputs.length + 1 ≤ Graph.maxEntries := by
    decide
  have judged : (doubled.graph 100).toOption.bind (fun graph =>
      (graph.judge exchangeView .sample).outcome.toOption.bind cause?) =
        some .mismatchedReference := by
    decide +kernel
  obtain ⟨graph, made, crossed, mismatches⟩ := mapping_wellFormed doubled 100 few
  rw [Checks.toOption_eq_some.mpr made, Option.bind_some] at judged
  obtain ⟨rejection, rejected, cause⟩ := exists_invalid judged
  exact ⟨few, graph, rejection, made, crossed, rejected, cause,
    (mismatches exchangeView .sample rejection rejected).1 cause⟩

end Transaction

end EntryLedger
