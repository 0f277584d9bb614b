import EntryLedger.Proofs.Judgement.Defects

/-!
# The account of a transaction

One meter is opened for a transaction.  The walk pays from it for one visit to every
entry, then the programs pay for what they do, one after the other in the order of
their entries.  Nothing is paid twice and nothing is paid back, so that the gas of an
accepted transaction is the sum of what was paid on the way.
-/

namespace EntryLedger

/-! ### The meter -/

namespace Meter

/-- The meter of a transaction after its visits and its programs. -/
structure Billed (fee size : UInt64) (params : Params) (visits programs : Nat)
    (meter : Meter) : Prop where
  used : meter.used = visits * params.visitCost.toNat + programs
  visited : meter.entriesVisited = visits
  storage : meter.storageGas = storageOf size params
  budget : meter.budget = budgetOf fee params
  runLimit : meter.runLimit = runLimitOf fee params
  total : meter.used + meter.remaining = meter.runLimit

end Meter

/-! ### Before the walk -/

/-- Settings that judge single coinbases alike judge the coinbases of nodes alike. -/
theorem checkCoinbases_congr {setting setting' : Setting} {inputCount : Nat}
    (alike : ∀ coinbase, Coinbase.check setting inputCount coinbase =
      Coinbase.check setting' inputCount coinbase) (nodes : List (Nat × EntryId × Entry)) :
    checkCoinbases setting inputCount nodes = checkCoinbases setting' inputCount nodes := by
  induction nodes with
  | nil => rfl
  | cons node nodes ih =>
      obtain ⟨index, id, entry⟩ := node
      cases entry with
      | coinbase body => simp only [checkCoinbases, alike body, ih]
      | _ => simp only [checkCoinbases, ih]

namespace Graph

variable {graph : Graph} {view : LedgerView} {native : AssetId}

theorem openMeter_eq_ok {setting : Setting} {meter : Meter} :
    graph.openMeter setting = .ok meter ↔
      graph.header.check setting.params setting.blockTime = .ok () ∧
        checkCoinbases setting graph.inputCount graph.nodes = .ok () ∧
        graph.results ≠ [] ∧
        Meter.ofFee graph.header.fee graph.header.size setting.params setting.expired =
          .ok meter := by
  simp only [openMeter, Checks.bind_eq_ok, Checks.mapError_eq_ok, Unique.exists_iff]
  cases graph.results with
  | nil => simp
  | cons result results => simp

/-! ### The walk -/

/-- A walk that reaches its end has paid for one visit to each of its nodes. -/
theorem walk_eq_ok {nodes : List (Nat × EntryId × Entry)} {meter walked : Meter}
    {before after : Tally} :
    graph.walk view native nodes meter before = .ok (walked, after) ↔
      graph.Visits view native nodes before after ∧
        (nodes ≠ [] → meter.expired = false) ∧
        nodes.length * meter.visitCost ≤ meter.remaining ∧
        meter.visited nodes.length = walked := by
  induction nodes generalizing meter before with
  | nil =>
      rw [walk, Except.ok.injEq, Prod.mk.injEq, List.length_nil, Meter.visited_zero]
      constructor
      · rintro ⟨same, rfl⟩
        exact ⟨.done before, fun visiting => (visiting rfl).elim, by omega, same⟩
      · rintro ⟨visits, -, -, same⟩
        cases visits
        exact ⟨same, rfl⟩
  | cons node nodes ih =>
      obtain ⟨index, id, entry⟩ := node
      have parted : (nodes.length + 1) * meter.visitCost ≤ meter.remaining ↔
          meter.visitCost ≤ meter.remaining ∧
            nodes.length * meter.visitCost ≤ meter.remaining - 1 * meter.visitCost := by
        rw [Nat.add_mul]
        omega
      rw [walk, List.length_cons, parted, Nat.add_comm nodes.length,
        ← Meter.visited_visited meter 1]
      constructor
      · intro finished
        split at finished
        · cases finished
        · rename_i visiting
          obtain ⟨timely, enough, rfl⟩ := Meter.visitEntry_eq_ok.mp visiting
          split at finished
          · cases finished
          · rename_i examined
            obtain ⟨visits, -, left, same⟩ := ih.mp finished
            exact ⟨.visit examined visits, fun _ => timely, ⟨enough, left⟩, same⟩
      · rintro ⟨visits, timely, ⟨enough, left⟩, same⟩
        cases visits with
        | visit examined rest =>
            have timely := timely (List.cons_ne_nil _ _)
            have visiting := Meter.visitEntry_eq_ok.mpr ⟨timely, enough, rfl⟩
            simp only [visiting, examined]
            exact ih.mpr ⟨rest, fun _ => timely, left, same⟩

end Graph

/-! ### The programs -/

/-- The program that guards an entry, if there is one.  A definition that the
transaction leaves out is the one that a view records. -/
def Entry.guard? (view : LedgerView) : Entry → Option Guard
  | .spend body => some {
      program := body.program
      destination := body.destination
      spentOutput := some body.spentOutput }
  | .issuance body =>
      (body.definition.or (view.definition? body.value.asset)).map fun definition => {
        program := definition.program
        destination := body.destination
        spentOutput := none }
  | .mux body => some { program := body.program, destination := none, spentOutput := none }
  | .output _ | .coinbase _ | .retirement _ => none

namespace Graph

variable {graph : Graph} {view : LedgerView} {setting : Setting} {native : AssetId}

/-- After a walk over the whole graph the guard of every node is known. -/
theorem Visits.guard?_eq {tally : Tally}
    (visits : graph.Visits view native graph.nodes .start tally) {index : Nat} {id : EntryId}
    {entry : Entry} (member : (index, id, entry) ∈ graph.nodes) :
    tally.guard? index entry = .ok (entry.guard? view) := by
  cases entry with
  | issuance body =>
      obtain ⟨guard, found⟩ := visits.exists_guard member
      cases learned : tally.definitions.lookup index with
      | none =>
          rw [Tally.guard?, learned] at found
          cases found
      | some definition =>
          obtain ⟨front, back, parts, -⟩ := List.lookup_eq_some_iff.mp learned
          have known : (index, definition) ∈ tally.definitions := by simp [parts]
          rcases visits.definition known with old | ⟨id', body', member', suits⟩
          · cases old
          · -- Places are not shared, so that the definition was learned from this issuance.
            have present := getElem?_of_mem_nodes member
            rw [getElem?_of_mem_nodes member'] at present
            cases present
            rw [Tally.guard?, learned, Entry.guard?, suits.1]
            rfl
  | spend | mux | output | coinbase | retirement => rfl

/-- The programs of nodes are run one after the other and succeed, each on the books
that the ones before it left.  Each of them adds what it used to the bills. -/
inductive Bills (graph : Graph) (view : LedgerView) (setting : Setting) :
    List (Nat × EntryId × Entry) → Books → List Nat → Books → Prop
  | done (books : Books) : Bills graph view setting [] books [] books
  | unguarded {index : Nat} {id : EntryId} {entry : Entry}
      {nodes : List (Nat × EntryId × Entry)} {before after : Books} {costs : List Nat}
      (free : entry.guard? view = none)
      (rest : Bills graph view setting nodes before costs after) :
      Bills graph view setting ((index, id, entry) :: nodes) before costs after
  | guarded {index : Nat} {id : EntryId} {entry : Entry} {guard : Guard} {hash : Digest}
      {nodes : List (Nat × EntryId × Entry)} {before middle after : Books} {cost : Nat}
      {costs : List Nat} (found : entry.guard? view = some guard)
      (hashed : graph.signatureHash? index = some hash)
      (authorised : (Machine.authorise (graph.guardContext setting id hash guard)
        guard.program entry.arguments).run before = .ok () middle)
      (used : middle.meter.used = before.meter.used + cost)
      (rest : Bills graph view setting nodes middle costs after) :
      Bills graph view setting ((index, id, entry) :: nodes) before (cost :: costs) after

/-- The programs of a graph succeed exactly when their bills can be drawn up. -/
theorem runGuards_eq_ok {tally : Tally} {nodes : List (Nat × EntryId × Entry)}
    {before after : Books}
    (known : ∀ node ∈ nodes, tally.guard? node.1 node.2.2 = .ok (node.2.2.guard? view)) :
    (graph.runGuards setting tally nodes).run before = .ok () after ↔
      ∃ costs, graph.Bills view setting nodes before costs after := by
  induction nodes generalizing before with
  | nil =>
      constructor
      · intro finished
        cases finished
        exact ⟨[], .done _⟩
      · rintro ⟨costs, bills⟩
        cases bills
        rfl
  | cons node nodes ih =>
      obtain ⟨index, id, entry⟩ := node
      have here := known _ (List.mem_cons_self ..)
      have later := fun node member => known node (List.mem_cons_of_mem _ member)
      rw [runGuards, Runs.bind_eq_ok]
      constructor
      · rintro ⟨_, middle, ran, rest⟩
        obtain ⟨costs, bills⟩ := (ih later).mp rest
        cases guarded : entry.guard? view with
        | none =>
            rw [runGuard, here, guarded] at ran
            cases ran
            exact ⟨costs, .unguarded guarded bills⟩
        | some guard =>
            obtain ⟨hash, hashed, authorised⟩ :=
              authorise_of_runGuard ran (here.trans (congrArg Except.ok guarded))
            have course := Machine.precedes_authorise
              (graph.guardContext setting id hash guard) guard.program entry.arguments before
            rw [authorised] at course
            exact ⟨_, .guarded guarded hashed authorised
              (Nat.add_sub_cancel' course.used).symm bills⟩
      · rintro ⟨costs, bills⟩
        cases bills with
        | unguarded free rest =>
            refine ⟨(), before, ?_, (ih later).mpr ⟨_, rest⟩⟩
            rw [runGuard, here, free]
            rfl
        | @guarded _ _ _ guard hash _ _ middle _ _ _ found hashed authorised used rest =>
            refine ⟨(), middle, ?_, (ih later).mpr ⟨_, rest⟩⟩
            rw [runGuard, here, found]
            simp only [hashed]
            change Judging.authorise id _ before = .ok () middle
            rw [Judging.authorise, authorised]

/-- The bills add up to what was used, and the rest of the account stays as it was. -/
theorem Bills.paid {nodes : List (Nat × EntryId × Entry)} {before after : Books}
    {costs : List Nat} (bills : graph.Bills view setting nodes before costs after) :
    after.meter.used = before.meter.used + costs.sum ∧
      before.meter.Continues after.meter ∧
      after.meter.entriesVisited = before.meter.entriesVisited := by
  induction bills with
  | done books => exact ⟨rfl, .refl _, rfl⟩
  | unguarded free rest ih => exact ih
  | @guarded index id entry guard hash nodes before middle after cost costs found hashed
      authorised used rest ih =>
      obtain ⟨sum, continues, visits⟩ := ih
      let context := graph.guardContext setting id hash guard
      have course := Machine.precedes_authorise context guard.program entry.arguments before
      have terms := Machine.terms_authorise context guard.program entry.arguments before
      rw [authorised] at course terms
      refine ⟨?_, ?_, visits.trans course.visits⟩
      · rw [sum, used, List.sum_cons, Nat.add_assoc]
      · exact Meter.Continues.trans { terms := terms, total := course.total } continues

/-- What programs leave of a meter that was opened for a transaction and from which some
visits were paid. -/
theorem Bills.billed {nodes : List (Nat × EntryId × Entry)} {fee size : UInt64}
    {params : Params} {expired : Bool} {visits : Nat} {costs : List Nat} {last : Books}
    (bills : graph.Bills view setting nodes
      (.ofMeter ((Meter.opening fee size params expired).visited visits) true) costs last)
    (enough : visits * params.visitCost.toNat ≤ Meter.runLimitOf fee params) :
    last.meter.Billed fee size params visits costs.sum := by
  obtain ⟨sum, continues, counting⟩ := bills.paid
  have limit : last.meter.runLimit = Meter.runLimitOf fee params := continues.runLimit
  have total := continues.total
  simp only [Books.ofMeter, Meter.visited, Meter.opening, Nat.zero_add] at sum total counting
  exact {
    used := sum
    visited := counting
    storage := continues.storageGas
    budget := continues.budget
    runLimit := limit
    total := by omega }

/-- A graph is valid exactly when its meter can be opened and pays for all visits, when
the walk finds everything in order, and when its programs succeed and what they have
used is settled. -/
theorem outcome_judge_eq_valid_iff_bills {gasUsed visited : Nat} :
    (graph.judge view setting).outcome = .ok (.valid gasUsed visited) ↔
      ∃ meter tally costs last, graph.openMeter setting = .ok meter ∧
        (graph.nodes ≠ [] → meter.expired = false) ∧
        graph.nodes.length * meter.visitCost ≤ meter.remaining ∧
        graph.Visits view setting.params.nativeAsset graph.nodes .start tally ∧
        tally.checkFee setting.params.nativeAsset graph.header.fee = .ok () ∧
        (setting.requiresTemplates = true →
          checkTemplates setting.params.nativeAsset graph.nodes = .ok ()) ∧
        graph.Bills view setting graph.nodes
          (.ofMeter (meter.visited graph.nodes.length) true) costs last ∧
        last.meter.settle graph.hasCoinbase = .ok gasUsed ∧
        last.meter.entriesVisited = visited := by
  rw [outcome_judge_eq_valid]
  constructor
  · rintro ⟨_, tally, last, vetted, ran, settled, counted⟩
    obtain ⟨meter, opened, walked, fee, templates⟩ := vet_eq_ok.mp vetted
    obtain ⟨visits, timely, enough, rfl⟩ := walk_eq_ok.mp walked
    obtain ⟨costs, bills⟩ := (runGuards_eq_ok fun _ member => visits.guard?_eq member).mp ran
    exact ⟨meter, tally, costs, last, opened, timely, enough, visits, fee, templates, bills,
      settled, counted⟩
  · rintro ⟨meter, tally, costs, last, opened, timely, enough, visits, fee, templates, bills,
      settled, counted⟩
    have walked := walk_eq_ok.mpr ⟨visits, timely, enough, rfl⟩
    exact ⟨_, tally, last, vet_eq_ok.mpr ⟨meter, opened, walked, fee, templates⟩,
      (runGuards_eq_ok fun _ member => visits.guard?_eq member).mpr ⟨costs, bills⟩,
      settled, counted⟩

end Graph

/-- The gas of an accepted graph is what is due for its encoding, for the visits to all
its entries, and for what its programs used one after the other.  It is capped, and
unless there is a coinbase the fee pays for it. -/
theorem Graph.gas_accounted {graph : Graph} {view : LedgerView} {setting : Setting}
    {header : Header} {entries : List Entry} {results : List Nat} {gasUsed visited : Nat}
    (built : build header entries results = .ok graph)
    (valid : (graph.judge view setting).outcome = .ok (.valid gasUsed visited)) :
    visited = entries.length ∧
      ∃ meter tally costs last, graph.vet view setting = .ok (meter, tally) ∧
        meter.used = entries.length * setting.params.visitCost.toNat ∧
        graph.Bills view setting graph.nodes (.ofMeter meter true) costs last ∧
        gasUsed = header.size.toNat * setting.params.storageRate.toNat +
          entries.length * setting.params.visitCost.toNat + costs.sum ∧
        entries.length * setting.params.visitCost.toNat + costs.sum ≤
          setting.params.maxGas.toNat ∧
        (graph.hasCoinbase = false →
          gasUsed ≤ setting.params.maxGas.toNat ∧
            gasUsed * setting.params.gasPrice.toNat ≤ header.fee.toNat) := by
  obtain ⟨meter, tally, costs, last, opened, timely, enough, visits, fee, templates, bills,
    settled, counted⟩ := outcome_judge_eq_valid_iff_bills.mp valid
  have length : graph.nodes.length = entries.length := by
    rw [length_nodes (length_ids_of_build built), entries_of_build built]
  obtain ⟨-, -, -, priced⟩ := openMeter_eq_ok.mp opened
  rw [header_of_build built] at priced
  obtain ⟨-, -, rfl⟩ := Meter.ofFee_eq_ok.mp priced
  have walked : graph.vet view setting = .ok (_, tally) :=
    vet_eq_ok.mpr ⟨_, opened, walk_eq_ok.mpr ⟨visits, timely, enough, rfl⟩, fee, templates⟩
  rw [length] at enough bills walked
  have billed := bills.billed enough
  have limit := billed.total
  have capped : last.meter.runLimit ≤ setting.params.maxGas.toNat :=
    billed.runLimit ▸ Nat.min_le_right _ _
  obtain ⟨-, -, owed, total⟩ := Meter.settle_eq_ok.mp settled
  refine ⟨counted.symm.trans billed.visited, _, tally, costs, last, walked, Nat.zero_add _,
    bills, ?_, ?_, ?_⟩
  · rw [← total, billed.used, billed.storage, Nat.add_comm, ← Nat.add_assoc]
    rfl
  · rw [← billed.used]
    omega
  · intro owing
    rw [← total]
    exact Meter.mul_price_le_fee (billed.budget ▸ owed owing)

/-! ### Two muxes -/

/-- A graph without a coinbase that is built and judged at once. -/
theorem Graph.exists_of_judged {header : Header} {entries : List Entry} {results : List Nat}
    {view : LedgerView} {setting : Setting} {verdict : Verdict}
    (judged : (build header entries results).toOption.bind (fun graph =>
      if graph.hasCoinbase = false then (graph.judge view setting).outcome.toOption
      else none) = some verdict) :
    ∃ graph, build header entries results = .ok graph ∧ graph.hasCoinbase = false ∧
      (graph.judge view setting).outcome = .ok verdict := by
  obtain ⟨graph, built, ended⟩ := Option.bind_eq_some_iff.mp judged
  split at ended
  · rename_i owing
    exact ⟨graph, Checks.toOption_eq_some.mp built, owing, Checks.toOption_eq_some.mp ended⟩
  · cases ended

/-- A setting in which bytes, visits and programs all cost gas. -/
def Setting.metered : Setting :=
  { Setting.sample with params := {
      Setting.sample.params with storageRate := 3, visitCost := 2 } }

open Conservation in
theorem Graph.gas_accounted_of_twoMuxes :
    ∃ graph, Graph.build twoMuxesHeader twoMuxes [2, 5] = .ok graph ∧
      (graph.judge twoMuxesView .metered).outcome = .ok (.valid 55 6) ∧
      graph.hasCoinbase = false ∧
      ∃ before costs after,
        graph.Bills twoMuxesView .metered graph.nodes before costs after ∧
          costs.sum = 40 := by
  obtain ⟨graph, built, owing, valid⟩ : ∃ graph,
      Graph.build twoMuxesHeader twoMuxes [2, 5] = .ok graph ∧ graph.hasCoinbase = false ∧
        (graph.judge twoMuxesView .metered).outcome = .ok (.valid 55 6) :=
    Graph.exists_of_judged (by decide +kernel)
  obtain ⟨-, meter, tally, costs, last, -, -, bills, sum, -, -⟩ :=
    Graph.gas_accounted built valid
  have visits : twoMuxes.length * Setting.metered.params.visitCost.toNat = 12 := rfl
  have storage : twoMuxesHeader.size.toNat * Setting.metered.params.storageRate.toNat = 3 :=
    rfl
  refine ⟨graph, built, valid, owing, _, costs, last, bills, ?_⟩
  omega

end EntryLedger
