import EntryLedger.Proofs.Judgement.Conservation
import EntryLedger.Proofs.Transaction.Composition

/-!
# Amounts that a word can represent

A mux converts every amount that it takes in or gives out to the word of balances, which
is also the word of the machine, and rejects an amount that does not fit.  Nothing else
converts amounts.  In an accepted graph every edge that touches a mux therefore carries a
representable amount, as do all edges of a transaction, while an edge that leads from an
input straight to an output or a retirement may carry any amount.
-/

namespace EntryLedger

/-- Whether balances and programs can represent the amount of a value. -/
def Value.Representable (value : Value) : Prop :=
  value.amount.toNat < 2 ^ 63

instance (value : Value) : Decidable value.Representable :=
  inferInstanceAs (Decidable (value.amount.toNat < 2 ^ 63))

namespace Balance

variable {balance next : Balance} {value : Value}

theorem representable_of_credit (credited : balance.credit value = .ok next) :
    value.Representable := by
  simp only [credit, Checks.bind_eq_ok, amount_eq_ok] at credited
  obtain ⟨_, ⟨fits, -⟩, -⟩ := credited
  exact fits

theorem representable_of_debit (debited : balance.debit value = .ok next) :
    value.Representable := by
  simp only [debit, Checks.bind_eq_ok, amount_eq_ok] at debited
  obtain ⟨_, ⟨fits, -⟩, -⟩ := debited
  exact fits

end Balance

namespace Graph

variable {graph : Graph} {view : LedgerView} {setting : Setting} {native : AssetId}

/-! ### One mux -/

theorem representable_of_creditSources {owner slot : Nat} {links : List Link}
    {balance next : Balance}
    (credited : graph.creditSources owner slot links balance = .ok next) :
    ∀ link ∈ links, link.value.Representable := by
  induction links generalizing slot balance with
  | nil => exact fun _ member => (List.not_mem_nil member).elim
  | cons link links ih =>
      simp only [creditSources, Checks.bind_eq_ok] at credited
      obtain ⟨_, -, middle, added, rest⟩ := credited
      exact List.forall_mem_cons.mpr ⟨Balance.representable_of_credit added, ih rest⟩

theorem representable_of_debitDestinations {owner slot : Nat} {links : List Link}
    {balance next : Balance}
    (debited : graph.debitDestinations owner slot links balance = .ok next) :
    ∀ link ∈ links, link.value.Representable := by
  induction links generalizing slot balance with
  | nil => exact fun _ member => (List.not_mem_nil member).elim
  | cons link links ih =>
      simp only [debitDestinations, Checks.bind_eq_ok] at debited
      obtain ⟨_, -, middle, taken, rest⟩ := debited
      exact List.forall_mem_cons.mpr ⟨Balance.representable_of_debit taken, ih rest⟩

/-- A mux that passes takes in and gives out representable amounts only. -/
theorem representable_of_balanceMux {owner : Nat} {mux : Mux} {residual next : Int}
    (balanced : graph.balanceMux native owner mux residual = .ok next) :
    (∀ link ∈ mux.sources, link.value.Representable) ∧
      ∀ link ∈ mux.destinations, link.value.Representable := by
  simp only [balanceMux, Checks.bind_eq_ok] at balanced
  obtain ⟨_, credited, _, debited, -⟩ := balanced
  exact ⟨representable_of_creditSources credited, representable_of_debitDestinations debited⟩

/-! ### All edges -/

/-- Whether a mux is at a place of the graph. -/
def HasMux (graph : Graph) (place : Nat) : Prop :=
  ∃ mux, graph.entries[place]? = some (.mux mux)

/-- Whether an edge leads from an input straight to an output or a retirement. -/
def IsDirect (graph : Graph) (edge : Edge) : Prop :=
  ¬ graph.HasMux edge.giver ∧ ¬ graph.HasMux edge.taker

/-- What an accepted graph has passed that bears on its amounts. -/
structure Screened (graph : Graph) : Prop where
  crossed : graph.CrossChecked
  sources : ∀ mux, Entry.mux mux ∈ graph.entries →
    ∀ link ∈ mux.sources, link.value.Representable
  destinations : ∀ mux, Entry.mux mux ∈ graph.entries →
    ∀ link ∈ mux.destinations, link.value.Representable

theorem screened_of_valid {gasUsed visited : Nat}
    (identified : graph.ids.length = graph.entries.length)
    (valid : (graph.judge view setting).outcome = .ok (.valid gasUsed visited)) :
    graph.Screened := by
  obtain ⟨tally, visits, -⟩ := visits_of_valid valid
  have muxes (mux : Mux) (member : Entry.mux mux ∈ graph.entries) :
      (∀ link ∈ mux.sources, link.value.Representable) ∧
        ∀ link ∈ mux.destinations, link.value.Representable := by
    obtain ⟨place, found⟩ := List.mem_iff_getElem?.mp member
    obtain ⟨id, node⟩ := exists_node identified found
    obtain ⟨_, _, examined⟩ := visits.exists_examine (List.mem_of_getElem? node)
    cases learns_of_examine examined with
    | mux balanced => exact representable_of_balanceMux balanced
  exact {
    crossed := visits.crossChecked identified
    sources := fun mux member => (muxes mux member).1
    destinations := fun mux member => (muxes mux member).2 }

namespace Screened

variable {edge : Edge} (screened : graph.Screened)
include screened

/-- Each end of an edge describes its value, so that one mux at either end suffices. -/
theorem representable_of_mux (listed : edge ∈ graph.outflows)
    (touches : ¬ graph.IsDirect edge) : edge.value.Representable := by
  have touches : graph.HasMux edge.giver ∨ graph.HasMux edge.taker := by
    unfold IsDirect at touches
    tauto
  rcases touches with ⟨mux, giver⟩ | ⟨mux, taker⟩
  · obtain ⟨owner, entry, slot, link, present, slotted, rfl⟩ := mem_edges.mp listed
    obtain rfl : entry = .mux mux := Option.some.inj (present.symm.trans giver)
    exact screened.destinations mux (List.mem_of_getElem? present) link
      (List.mem_of_getElem? slotted)
  · have listed := (mem_inflows_iff screened.crossed).mpr listed
    obtain ⟨owner, entry, slot, link, present, slotted, rfl⟩ := mem_edges.mp listed
    obtain rfl : entry = .mux mux := Option.some.inj (present.symm.trans taker)
    exact screened.sources mux (List.mem_of_getElem? present) link
      (List.mem_of_getElem? slotted)

/-- All links carry representable amounts where the edges past the muxes do. -/
theorem representable_of_direct
    (direct : ∀ edge ∈ graph.outflows, graph.IsDirect edge → edge.value.Representable)
    {entry : Entry} (member : entry ∈ graph.entries) {link : Link}
    (linked : link ∈ entry.sources ++ entry.destinations) : link.value.Representable := by
  have all (edge : Edge) (listed : edge ∈ graph.outflows) : edge.value.Representable := by
    by_cases past : graph.IsDirect edge
    · exact direct edge listed past
    · exact screened.representable_of_mux listed past
  obtain ⟨owner, present⟩ := List.mem_iff_getElem?.mp member
  rcases List.mem_append.mp linked with source | destination
  · obtain ⟨slot, slotted⟩ := List.mem_iff_getElem?.mp source
    have listed : Edge.ofSource owner slot link ∈ graph.inflows :=
      mem_edges.mpr ⟨owner, entry, slot, link, present, slotted, rfl⟩
    exact all _ ((mem_inflows_iff screened.crossed).mp listed)
  · obtain ⟨slot, slotted⟩ := List.mem_iff_getElem?.mp destination
    exact all _ (mem_edges.mpr ⟨owner, entry, slot, link, present, slotted, rfl⟩)

end Screened

/-- In an accepted graph every edge that touches a mux carries a representable amount.
Hence all links do so exactly when the edges do that lead from an input straight to an
output or a retirement. -/
theorem amounts_representable_iff {header : Header} {entries : List Entry}
    {results : List Nat} {gasUsed visited : Nat}
    (built : build header entries results = .ok graph)
    (valid : (graph.judge view setting).outcome = .ok (.valid gasUsed visited)) :
    (∀ edge ∈ graph.outflows, ¬ graph.IsDirect edge → edge.value.Representable) ∧
      ((∀ entry ∈ entries, ∀ link ∈ entry.sources ++ entry.destinations,
          link.value.Representable) ↔
        ∀ edge ∈ graph.outflows, graph.IsDirect edge → edge.value.Representable) := by
  have screened := screened_of_valid (length_ids_of_build built) valid
  refine ⟨fun edge listed touches => screened.representable_of_mux listed touches, ?_, ?_⟩
  · intro all edge listed _
    obtain ⟨owner, entry, slot, link, present, slotted, rfl⟩ := mem_edges.mp listed
    rw [entries_of_build built] at present
    exact all entry (List.mem_of_getElem? present) link
      (List.mem_append_right _ (List.mem_of_getElem? slotted))
  · intro direct entry member link linked
    rw [← entries_of_build built] at member
    exact screened.representable_of_direct direct member linked

end Graph

/-- All value of a transaction passes its mux, so that an accepted one carries representable
amounts only. -/
theorem Sealed.Made.amounts_representable {tx : Sealed} (made : tx.Made) {view : LedgerView}
    {setting : Setting} {gasUsed visited : Nat}
    (valid : (tx.judge view setting).outcome = .ok (.valid gasUsed visited)) :
    ∀ entry ∈ tx.transaction.entries, ∀ link ∈ entry.sources ++ entry.destinations,
      link.value.Representable := by
  have entries := Graph.entries_of_build made.built
  have screened := Graph.screened_of_valid (Graph.length_ids_of_build made.built) valid
  have mixed : tx.graph.HasMux tx.transaction.inputs.length :=
    ⟨tx.transaction.mux, by rw [entries, Transaction.getElem?_entries_mux]⟩
  intro entry member link linked
  rw [← entries] at member
  refine screened.representable_of_direct (fun edge listed direct => ?_) member linked
  obtain ⟨owner, giver, slot, given, present, slotted, rfl⟩ := Graph.mem_edges.mp listed
  rw [entries] at present
  cases Transaction.placeOf_of_getElem? present with
  | @input index input found =>
      rw [Input.destinations_entry] at slotted
      obtain rfl := List.mem_singleton.mp (List.mem_of_getElem? slotted)
      exact (direct.2 mixed).elim
  | mux => exact (direct.1 mixed).elim
  | @payment index payment found =>
      rw [Payment.destinations_entry] at slotted
      cases slotted

/-! ### Value that passes no mux -/

namespace Amounts

def nativeLink (entry : Nat) (amount : UInt64) : Link where
  entry := entry
  value := { asset := AssetId.native, amount := amount }
  position := 0

def spend (output : UInt8) (ordinal : UInt64) (destination : Link) : Entry :=
  .spend {
    spentOutput := Digest.filled output
    program := Transaction.muxProgram
    destination := some destination
    arguments := []
    ordinal := ordinal }

/-- Ten are spent past the mux and two hundred through it. -/
def bypass : List Entry :=
  [spend 1 0 (nativeLink 1 10),
    .output { source := nativeLink 0 10, program := Transaction.muxProgram, ordinal := 0 },
    spend 2 1 (nativeLink 3 200),
    .mux {
      sources := [nativeLink 2 200]
      program := Transaction.muxProgram
      destinations := [nativeLink 4 100]
      arguments := [] },
    .retirement { source := nativeLink 3 100, ordinal := 1 }]

/-- A coinbase that pays one more than the largest representable amount straight to an
output. -/
def excessiveReward : List Entry :=
  [.coinbase { destination := some (nativeLink 1 0x8000000000000000), data := [], ordinal := 0 },
    .output {
      source := nativeLink 0 0x8000000000000000
      program := Transaction.muxProgram
      ordinal := 0 }]

def freeHeader : Header where
  version := 1
  size := 100
  timeRange := { earliest := 0, latest := 0 }
  fee := 0

end Amounts

open Amounts Conservation in
theorem Graph.amounts_representable_iff_of_bypass :
    ∃ graph, Graph.build twoMuxesHeader bypass [1, 4] = .ok graph ∧
      (graph.judge twoMuxesView .sample).outcome = .ok (.valid 30 5) ∧
      (∀ edge ∈ graph.outflows, graph.IsDirect edge → edge.value.Representable) ∧
      ∀ entry ∈ bypass, ∀ link ∈ entry.sources ++ entry.destinations,
        link.value.Representable := by
  have judged : (Graph.build twoMuxesHeader bypass [1, 4]).toOption.bind (fun graph =>
      (graph.judge twoMuxesView .sample).outcome.toOption) = some (.valid 30 5) := by
    decide +kernel
  obtain ⟨graph, built, valid⟩ := Option.bind_eq_some_iff.mp judged
  have built := Checks.toOption_eq_some.mp built
  have valid := Checks.toOption_eq_some.mp valid
  have direct : ∀ edge ∈ graph.outflows, graph.IsDirect edge → edge.value.Representable := by
    have outflows : graph.outflows = [
        ⟨0, 0, 1, 0, ⟨AssetId.native, 10⟩⟩, ⟨2, 0, 3, 0, ⟨AssetId.native, 200⟩⟩,
        ⟨3, 0, 4, 0, ⟨AssetId.native, 100⟩⟩] := by
      rw [Graph.outflows, Graph.edges, Graph.entries_of_build built]
      rfl
    rw [outflows]
    exact fun edge listed _ => (by decide : ∀ edge ∈ _, edge.value.Representable) edge listed
  exact ⟨graph, built, valid, direct,
    (Graph.amounts_representable_iff built valid).2.mpr direct⟩

open Amounts in
/-- An accepted output can carry an amount that no balance and no program can represent. -/
theorem Graph.judge_accepts_excessive_reward :
    ∃ graph, Graph.build freeHeader excessiveReward [1] = .ok graph ∧
      (graph.judge Ledger.empty.view { Setting.sample with params := Params.main }).outcome =
        .ok (.valid 116 2) ∧
      ∃ output, Entry.output output ∈ excessiveReward ∧
        ¬ output.source.value.Representable ∧
        Number.ofQuantity output.source.value.amount = none := by
  have judged : (Graph.build freeHeader excessiveReward [1]).toOption.bind (fun graph =>
      (graph.judge Ledger.empty.view
        { Setting.sample with params := Params.main }).outcome.toOption) =
          some (.valid 116 2) := by
    decide +kernel
  obtain ⟨graph, built, valid⟩ := Option.bind_eq_some_iff.mp judged
  exact ⟨graph, Checks.toOption_eq_some.mp built, Checks.toOption_eq_some.mp valid, _,
    List.mem_cons_of_mem _ (List.mem_cons_self ..), by decide, by decide⟩

end EntryLedger
