import EntryLedger.Proofs.Graph.Identity
import EntryLedger.Proofs.Judgement.Conservation

/-!
# Where assets come from

A mux only gives out assets that it takes in, whatever the amounts, and its sources
are earlier entries.  Following an asset backwards therefore ends at an entry that
brings it in.  A transaction with a coinbase has no other input, so that nothing but
the native asset leaves it, and the coinbase pays for all of it.
-/

namespace EntryLedger

/-! ### Assets in balances -/

namespace Balance

/-- Whether an asset was taken in, even if nothing of it. -/
def Knows (balance : Balance) (asset : AssetId) : Prop :=
  (balance.get? asset).isSome = true

variable {balance next : Balance} {value : Value} {asset : AssetId}

theorem not_knows_empty : ¬ Knows .empty asset := by
  rw [Knows, DigestMap.get?_empty]
  exact Bool.false_ne_true

theorem knows_insert {key : AssetId} {sum : Int} :
    Knows (balance.insert key sum) asset ↔ key = asset ∨ balance.Knows asset := by
  unfold Knows
  rw [DigestMap.get?_insert]
  by_cases same : key = asset
  · simp [same]
  · simp [same]

theorem knows_credit (credited : balance.credit value = .ok next) :
    next.Knows asset ↔ value.asset = asset ∨ balance.Knows asset := by
  simp only [credit, Checks.bind_eq_ok, Checks.pure_eq_ok, Except.ok.injEq] at credited
  obtain ⟨_, -, _, -, rfl⟩ := credited
  exact knows_insert

/-- Only an asset that was taken in can be given out. -/
theorem knows_of_debit (debited : balance.debit value = .ok next) :
    balance.Knows value.asset := by
  simp only [debit, Checks.bind_eq_ok] at debited
  obtain ⟨_, -, found⟩ := debited
  cases present : balance.get? value.asset with
  | none =>
      rw [present] at found
      cases found
  | some sum => rw [Knows, present, Option.isSome_some]

theorem knows_debit (debited : balance.debit value = .ok next) :
    next.Knows asset ↔ balance.Knows asset := by
  have known := knows_of_debit debited
  simp only [debit, Checks.bind_eq_ok] at debited
  obtain ⟨_, -, found⟩ := debited
  cases present : balance.get? value.asset with
  | none =>
      rw [present] at found
      cases found
  | some sum =>
      simp only [present, Checks.bind_eq_ok, Checks.pure_eq_ok, Except.ok.injEq] at found
      obtain ⟨_, -, rfl⟩ := found
      refine knows_insert.trans ⟨?_, .inr⟩
      rintro (rfl | before)
      · exact known
      · exact before

end Balance

namespace Graph

variable {graph : Graph} {view : LedgerView} {native : AssetId}

theorem knows_creditSources {owner slot : Nat} {links : List Link} {balance next : Balance}
    (credited : graph.creditSources owner slot links balance = .ok next) {asset : AssetId} :
    next.Knows asset → balance.Knows asset ∨ ∃ link ∈ links, link.value.asset = asset := by
  induction links generalizing slot balance with
  | nil =>
      obtain rfl : balance = next := Except.ok.inj credited
      exact .inl
  | cons link links ih =>
      simp only [creditSources, Checks.bind_eq_ok] at credited
      obtain ⟨_, -, middle, added, rest⟩ := credited
      intro known
      rcases ih rest known with before | ⟨later, member, same⟩
      · rcases (Balance.knows_credit added).mp before with same | before
        · exact .inr ⟨link, List.mem_cons_self .., same⟩
        · exact .inl before
      · exact .inr ⟨later, List.mem_cons_of_mem _ member, same⟩

theorem knows_of_debitDestinations {owner slot : Nat} {links : List Link}
    {balance next : Balance}
    (debited : graph.debitDestinations owner slot links balance = .ok next) {link : Link}
    (member : link ∈ links) : balance.Knows link.value.asset := by
  induction links generalizing slot balance with
  | nil => cases member
  | cons head links ih =>
      simp only [debitDestinations, Checks.bind_eq_ok] at debited
      obtain ⟨_, -, middle, taken, rest⟩ := debited
      rcases List.mem_cons.mp member with rfl | later
      · exact Balance.knows_of_debit taken
      · exact (Balance.knows_debit taken).mp (ih rest later)

/-- A mux that passes takes in every asset that it gives out. -/
theorem exists_source_of_balanceMux {owner : Nat} {mux : Mux} {residual next : Int}
    (balanced : graph.balanceMux native owner mux residual = .ok next) {link : Link}
    (member : link ∈ mux.destinations) :
    ∃ source ∈ mux.sources, source.value.asset = link.value.asset := by
  simp only [balanceMux, Checks.bind_eq_ok] at balanced
  obtain ⟨credited, creditedOk, balance, debitedOk, -⟩ := balanced
  have known := knows_of_debitDestinations debitedOk member
  exact (knows_creditSources creditedOk known).resolve_left Balance.not_knows_empty

end Graph

/-! ### Following an asset backwards -/

/-- An input that brings in a value of an asset and passes just this value on. -/
def Entry.Brings (view : LedgerView) (asset : AssetId) (entry : Entry) : Prop :=
  entry.isInput = true ∧ ∃ link, entry.destinations = [link] ∧
    entry.brought? view = some link.value ∧ link.value.asset = asset

namespace Graph

variable {graph : Graph} {view : LedgerView} {native : AssetId} {asset : AssetId}

/-- What an input passes on it brings in. -/
theorem exists_destination_of_examine {before after : Tally} {index : Nat} {entry : Entry}
    (examined : graph.examine view native before index entry = .ok after)
    (input : entry.isInput = true) :
    ∃ link, entry.destinations = [link] ∧ entry.brought? view = some link.value := by
  cases learns_of_examine examined with
  | spend destined unused recorded =>
      exact ⟨_, by rw [Entry.destinations, destined, Option.toList_some], recorded⟩
  | issuance destined supplied defined same =>
      exact ⟨_, by rw [Entry.destinations, destined, Option.toList_some],
        by rw [Entry.brought?, same]⟩
  | coinbase destined =>
      exact ⟨_, by rw [Entry.destinations, destined, Option.toList_some],
        by rw [Entry.brought?, destined, Option.map_some]⟩
  | mux balanced => cases input
  | output body => cases input
  | retirement body => cases input

/-- An asset that an entry passes on it brings in itself or takes from a source. -/
theorem brings_or_takes_of_examine {before after : Tally} {index : Nat} {entry : Entry}
    (examined : graph.examine view native before index entry = .ok after) {link : Link}
    (member : link ∈ entry.destinations) :
    entry.Brings view link.value.asset ∨
      ∃ source ∈ entry.sources, source.value.asset = link.value.asset := by
  cases kind : entry.isInput with
  | true =>
      obtain ⟨only, destinations, brought⟩ := exists_destination_of_examine examined kind
      rw [destinations, List.mem_singleton] at member
      exact .inl ⟨kind, only, destinations, brought, by rw [member]⟩
  | false =>
      cases learns_of_examine examined with
      | mux balanced => exact .inr (exists_source_of_balanceMux balanced member)
      | output body => cases member
      | retirement body => cases member
      | spend destined unused recorded => cases kind
      | issuance destined supplied defined same => cases kind
      | coinbase destined => cases kind

/-- Every source of a built graph points to an earlier entry. -/
def Ordered (graph : Graph) : Prop :=
  ∀ (place : Nat) (entry : Entry), graph.entries[place]? = some entry →
    ∀ link ∈ entry.sources, link.entry < place

theorem ordered_of_build {header : Header} {entries : List Entry} {results : List Nat}
    (built : build header entries results = .ok graph) : graph.Ordered := by
  intro place entry present link member
  rw [entries_of_build built] at present
  obtain ⟨-, entriesChecked, -⟩ := build_eq_ok.mp built
  have checked := entriesChecked entry place (List.mem_zipIdx_iff_getElem?.mpr present)
  exact source_lt_of_checkEntry checked member

section Visited

variable {tally : Tally} (visits : graph.Visits view native graph.nodes .start tally)
  (identified : graph.ids.length = graph.entries.length)
include visits identified

theorem Visits.exists_examine_of_getElem? {place : Nat} {entry : Entry}
    (present : graph.entries[place]? = some entry) :
    ∃ before after, graph.examine view native before place entry = .ok after := by
  obtain ⟨id, node⟩ := exists_node identified present
  exact visits.exists_examine (List.mem_of_getElem? node)

/-- A source that an entry takes value from is a destination of the entry that it
names. -/
theorem Visits.exists_giver {place : Nat} {entry : Entry}
    (present : graph.entries[place]? = some entry) {source : Link}
    (member : source ∈ entry.sources) :
    ∃ giver back, graph.entries[source.entry]? = some giver ∧ back ∈ giver.destinations ∧
      source.value = back.value := by
  obtain ⟨slot, slotted⟩ := List.mem_iff_getElem?.mp member
  obtain ⟨giver, back, giverAt, backAt, -, -, sameValue⟩ :=
    crossSource_eq_ok.mp ((visits.crossChecked identified).sources present slotted)
  exact ⟨giver, back, giverAt, List.mem_of_getElem? backAt, sameValue⟩

/-- Whatever an entry passes on, some input brings its asset in. -/
theorem Visits.exists_brings_of_destination (ordered : graph.Ordered) {place : Nat}
    {entry : Entry} (present : graph.entries[place]? = some entry) {link : Link}
    (member : link ∈ entry.destinations) :
    ∃ origin ∈ graph.entries, origin.Brings view link.value.asset := by
  -- The induction is on the place, as sources are earlier.
  induction place using Nat.strongRecOn generalizing entry link with
  | ind place ih =>
      obtain ⟨_, _, examined⟩ := visits.exists_examine_of_getElem? identified present
      rcases brings_or_takes_of_examine examined member with brings | ⟨source, taken, same⟩
      · exact ⟨entry, List.mem_of_getElem? present, brings⟩
      · obtain ⟨giver, back, giverAt, given, sameValue⟩ :=
          visits.exists_giver identified present taken
        have earlier := ordered place entry present source taken
        rw [← same, sameValue]
        exact ih source.entry earlier giverAt given

/-- Whatever is received, some input brings its asset in. -/
theorem Visits.exists_brings_of_received (ordered : graph.Ordered) {entry : Entry}
    (present : entry ∈ graph.entries) {value : Value}
    (received : entry.received? = some value) :
    ∃ origin ∈ graph.entries, origin.Brings view value.asset := by
  obtain ⟨source, taken, rfl⟩ : ∃ source ∈ entry.sources, source.value = value := by
    cases entry with
    | output body => exact ⟨_, List.mem_singleton_self _, Option.some.inj received⟩
    | retirement body => exact ⟨_, List.mem_singleton_self _, Option.some.inj received⟩
    | mux body => cases received
    | spend body => cases received
    | issuance body => cases received
    | coinbase body => cases received
  obtain ⟨place, presentAt⟩ := List.mem_iff_getElem?.mp present
  obtain ⟨giver, back, giverAt, given, sameValue⟩ :=
    visits.exists_giver identified presentAt taken
  rw [sameValue]
  exact visits.exists_brings_of_destination identified ordered giverAt given

end Visited

end Graph

/-! ### Coinbases -/

/-- What the rules for coinbases ask for. -/
theorem Coinbase.check_eq_ok {setting : Setting} {inputCount : Nat} {coinbase : Coinbase} :
    coinbase.check setting inputCount = .ok () ↔
      inputCount = 1 ∧ coinbase.ordinal = 0 ∧
        (setting.position = none ∨ setting.position = some 0) ∧
        coinbase.data.length ≤ setting.params.coinbaseDataLimit.toNat ∧
        ∃ link, coinbase.destination = some link ∧
          link.value.asset = setting.params.nativeAsset := by
  have first : setting.position.any (· ≠ 0) = false ↔
      setting.position = none ∨ setting.position = some 0 := by
    cases setting.position with
    | none => simp
    | some position => simp
  unfold check
  by_cases single : inputCount = 1
  · by_cases zero : coinbase.ordinal = 0
    · cases placed : setting.position.any (· ≠ 0) with
      | true =>
          have late := first.not.mp (by rw [placed]; exact Bool.noConfusion)
          simp [single, zero, late]
      | false =>
          have early := first.mp placed
          by_cases large : setting.params.coinbaseDataLimit.toNat < coinbase.data.length
          · simp [single, zero, early, large]
          · cases coinbase.destination with
            | none => simp [single, zero, early, large]
            | some link =>
                by_cases pays : link.value.asset = setting.params.nativeAsset
                · simp [single, zero, early, large, pays, Nat.le_of_not_lt large]
                · simp [single, zero, early, large, pays]
    · simp [single, zero]
  · simp [single]

theorem checkCoinbases_eq_ok {setting : Setting} {inputCount : Nat}
    {nodes : List (Nat × EntryId × Entry)} :
    checkCoinbases setting inputCount nodes = .ok () ↔
      ∀ index id coinbase, (index, id, .coinbase coinbase) ∈ nodes →
        coinbase.check setting inputCount = .ok () := by
  induction nodes with
  | nil => simp [checkCoinbases]
  | cons node nodes ih =>
      obtain ⟨index, id, entry⟩ := node
      cases entry with
      | coinbase body =>
          rw [checkCoinbases]
          cases checked : body.check setting inputCount with
          | error cause =>
              simp only [reduceCtorEq, false_iff]
              intro all
              have passed := all index id body (List.mem_cons_self ..)
              rw [checked] at passed
              cases passed
          | ok passed =>
              simp only [ih, List.mem_cons, Prod.mk.injEq, Entry.coinbase.injEq]
              constructor
              · rintro later index' id' body' (⟨-, -, rfl⟩ | member)
                · exact checked
                · exact later _ _ _ member
              · exact fun all _ _ _ member => all _ _ _ (.inr member)
      | issuance body => simp [checkCoinbases, ih]
      | spend body => simp [checkCoinbases, ih]
      | output body => simp [checkCoinbases, ih]
      | mux body => simp [checkCoinbases, ih]
      | retirement body => simp [checkCoinbases, ih]

/-- Where all values are of one asset, its amounts are all the amounts. -/
theorem Value.total_eq_sum {values : List Value} {asset : AssetId}
    (same : ∀ value ∈ values, value.asset = asset) :
    Value.total values asset = (values.map fun value => value.amount.toNat).sum := by
  rw [Value.total]
  congr 1
  exact List.map_congr_left fun value member => if_pos (same value member)

theorem filterMap_brought_filter_isInput (view : LedgerView) (entries : List Entry) :
    (entries.filter Entry.isInput).filterMap (Entry.brought? view) =
      entries.filterMap (Entry.brought? view) := by
  rw [List.filterMap_filter]
  congr 1
  funext entry
  cases entry with
  | issuance | spend | coinbase | output | mux | retirement => rfl

namespace Graph

variable {graph : Graph} {view : LedgerView} {setting : Setting} {gasUsed visited : Nat}

theorem checkCoinbases_of_openMeter {meter : Meter}
    (opened : graph.openMeter setting = .ok meter) :
    checkCoinbases setting graph.inputCount graph.nodes = .ok () := by
  simp only [openMeter, Checks.bind_eq_ok] at opened
  obtain ⟨_, -, _, checked, -⟩ := opened
  exact checked

/-- A coinbase of an accepted graph obeys the rules. -/
theorem check_coinbase_of_valid (identified : graph.ids.length = graph.entries.length)
    (valid : (graph.judge view setting).outcome = .ok (.valid gasUsed visited))
    {coinbase : Coinbase} (member : .coinbase coinbase ∈ graph.entries) :
    coinbase.check setting graph.inputCount = .ok () := by
  obtain ⟨_, _, _, vetted, -⟩ := outcome_judge_eq_valid.mp valid
  obtain ⟨_, opened, -⟩ := vet_eq_ok.mp vetted
  obtain ⟨place, present⟩ := List.mem_iff_getElem?.mp member
  obtain ⟨id, node⟩ := exists_node identified present
  exact checkCoinbases_eq_ok.mp (checkCoinbases_of_openMeter opened) place id coinbase
    (List.mem_of_getElem? node)

/-- The only input among the entries, where a coinbase is one of them. -/
theorem filter_isInput_of_coinbase {coinbase : Coinbase}
    (member : .coinbase coinbase ∈ graph.entries) (single : graph.inputCount = 1) :
    graph.entries.filter Entry.isInput = [.coinbase coinbase] := by
  rw [inputCount, List.countP_eq_length_filter] at single
  obtain ⟨only, alone⟩ := List.length_eq_one_iff.mp single
  have kept : .coinbase coinbase ∈ graph.entries.filter Entry.isInput :=
    List.mem_filter.mpr ⟨member, rfl⟩
  rw [alone, List.mem_singleton] at kept
  rw [alone, kept]

/-- Every asset that leaves an accepted transaction, be it with no amount at all, is
brought in by an input.  A coinbase is the only input of its transaction, which is the
first of its block; all that leaves it is of the native asset and adds up, with the
fee, to what the coinbase pays. -/
theorem received_assets_brought {header : Header} {entries : List Entry}
    {results : List Nat} (built : build header entries results = .ok graph)
    (valid : (graph.judge view setting).outcome = .ok (.valid gasUsed visited)) :
    (∀ entry ∈ entries, ∀ value, entry.received? = some value →
        ∃ origin ∈ entries, origin.Brings view value.asset) ∧
      ∀ coinbase, .coinbase coinbase ∈ entries →
        entries.filter Entry.isInput = [.coinbase coinbase] ∧ coinbase.ordinal = 0 ∧
        (setting.position = none ∨ setting.position = some 0) ∧
        coinbase.data.length ≤ setting.params.coinbaseDataLimit.toNat ∧
        (∀ entry ∈ entries, ∀ value, entry.received? = some value →
          value.asset = setting.params.nativeAsset) ∧
        ∃ link, coinbase.destination = some link ∧
          link.value.asset = setting.params.nativeAsset ∧
          ((entries.filterMap Entry.received?).map fun value => value.amount.toNat).sum +
            header.fee.toNat = link.value.amount.toNat := by
  have identified := length_ids_of_build built
  have ordered := ordered_of_build built
  obtain ⟨tally, visits, feeLeft⟩ := visits_of_valid valid
  have origins {entry : Entry} (present : entry ∈ graph.entries) {value : Value}
      (received : entry.received? = some value) :
      ∃ origin ∈ graph.entries, origin.Brings view value.asset :=
    visits.exists_brings_of_received identified ordered present received
  rw [← entries_of_build built]
  refine ⟨fun entry present value received => origins present received,
    fun coinbase member => ?_⟩
  obtain ⟨single, first, placed, small, link, destined, pays⟩ :=
    Coinbase.check_eq_ok.mp (check_coinbase_of_valid identified valid member)
  have alone := filter_isInput_of_coinbase member single
  have natives : ∀ entry ∈ graph.entries, ∀ value, entry.received? = some value →
      value.asset = setting.params.nativeAsset := by
    intro entry present value received
    obtain ⟨origin, originPresent, input, passed, -, brought, same⟩ := origins present received
    have kept : origin ∈ graph.entries.filter Entry.isInput :=
      List.mem_filter.mpr ⟨originPresent, input⟩
    rw [alone, List.mem_singleton] at kept
    have whole : link.value = passed.value := by
      rw [kept, Entry.brought?, destined, Option.map_some] at brought
      exact Option.some.inj brought
    rw [← same, ← whole, pays]
  refine ⟨alone, first, placed, small, natives, link, destined, pays, ?_⟩
  -- Only the coinbase brings in anything, and only the native asset is received.
  have conserved := visits.left_eq identified setting.params.nativeAsset
  rw [Tally.left, if_pos rfl, feeLeft, ← filterMap_brought_filter_isInput, alone,
    List.filterMap_cons_some (by rw [Entry.brought?, destined, Option.map_some]),
    List.filterMap_nil, Value.total_cons, Value.total_nil, Value.amountOf, if_pos pays,
    Value.total_eq_sum, header_of_build built] at conserved
  · omega
  · intro value member
    obtain ⟨entry, present, received⟩ := List.mem_filterMap.mp member
    exact natives entry present value received

end Graph

/-! ### A coinbase behind two muxes -/

namespace Provenance

private def paid (entry : Nat) (amount position : UInt64) : Link :=
  { entry := entry, value := { asset := AssetId.native, amount := amount }
    position := position }

private def mux (source : Link) (destinations : List Link) : Entry :=
  .mux {
    sources := [source]
    program := Transaction.muxProgram
    destinations := destinations
    arguments := [] }

def reward : Coinbase where
  destination := some (paid 1 50 0)
  data := [1, 2, 3]
  ordinal := 0

/-- The second mux pays an output, retires nothing and leaves ten as the fee. -/
def rewarding : List Entry :=
  [.coinbase reward, mux (paid 0 50 0) [paid 2 50 0],
    mux (paid 1 50 0) [paid 3 40 0, paid 4 0 0],
    .output { source := paid 2 40 0, program := Transaction.muxProgram, ordinal := 0 },
    .retirement { source := paid 2 0 1, ordinal := 1 }]

def rewardingHeader : Header where
  version := 1
  size := 1
  timeRange := { earliest := 0, latest := 0 }
  fee := 10

/-- The first place of a block. -/
def firstPlace : Setting :=
  { Setting.sample with position := some 0 }

end Provenance

open Provenance in
theorem Graph.received_assets_brought_of_rewarding :
    ∃ graph view, Graph.build rewardingHeader rewarding [3, 4] = .ok graph ∧
      (graph.judge view firstPlace).outcome = .ok (.valid 20 5) ∧
      rewarding.filter Entry.isInput = [.coinbase reward] := by
  have judged : (Graph.build rewardingHeader rewarding [3, 4]).toOption.bind (fun graph =>
      (graph.judge Conservation.twoMuxesView firstPlace).outcome.toOption) =
        some (.valid 20 5) := by
    decide +kernel
  obtain ⟨graph, built, valid⟩ := Option.bind_eq_some_iff.mp judged
  have built := Checks.toOption_eq_some.mp built
  have valid := Checks.toOption_eq_some.mp valid
  have brought := Graph.received_assets_brought built valid
  exact ⟨graph, _, built, valid, (brought.2 reward (List.mem_cons_self ..)).1⟩

end EntryLedger
