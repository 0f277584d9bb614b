import EntryLedger.Proofs.Judgement.Account
import EntryLedger.Proofs.Judgement.Provenance
import EntryLedger.Proofs.Machine.Unrefused

/-!
# The default credit

Programs may use the default credit before the account of their transaction is
settled.  A transaction without a coinbase is settled only if its fee pays for all of
its gas, and what the fee pays for can be used whatever the credit is.  Hence the
credit decides how far the programs of a rejected transaction get, and nothing else.
-/

namespace EntryLedger

/-! ### Programs -/

/-- Books on which a program does the same as long as the gas lasts. -/
structure Books.Akin (left right : Books) : Prop where
  exhausted : left.meter.exhausted = right.meter.exhausted
  traced : left.traced = right.traced
  timely : left.meter.expired = false ∧ right.meter.expired = false

theorem Books.Akin.symm {left right : Books} (akin : left.Akin right) : right.Akin left where
  exhausted := akin.exhausted.symm
  traced := akin.traced.symm
  timely := akin.timely.symm

theorem Books.Akin.enriched {left right : Books} (akin : left.Akin right)
    (le : left.meter.remaining ≤ right.meter.remaining) :
    Enriched left.meter.used right.meter.used left right where
  used := Nat.add_comm _ _
  remaining := le
  exhausted := akin.exhausted
  traced := akin.traced
  timely := akin.timely

theorem Enriched.akin {ahead behind : Nat} {left right : Books}
    (alike : Enriched ahead behind left right) : left.Akin right where
  exhausted := alike.exhausted
  traced := alike.traced
  timely := alike.timely

/-- A check that succeeds also succeeds on other books whose meter has what it used,
and uses the same there. -/
theorem Machine.authorise_of_afforded {context : Context} {program : Program}
    {arguments : List Bytes} {books other after : Books} {cost : Nat}
    (ran : (authorise context program arguments).run books = .ok () after)
    (used : after.meter.used = books.meter.used + cost) (akin : books.Akin other)
    (afforded : cost ≤ other.meter.remaining) :
    ∃ after', (authorise context program arguments).run other = .ok () after' ∧
      after'.meter.used = other.meter.used + cost ∧ after.Akin after' := by
  rcases Nat.le_total books.meter.remaining other.meter.remaining with less | more
  · have relates := (enriching books.meter.used other.meter.used).relates_authorise
      context program arguments (akin.enriched less)
    rw [ran] at relates
    generalize (authorise context program arguments).run other = ended at relates ⊢
    cases relates with
    | ok _ alike =>
        have spent := alike.used
        exact ⟨_, rfl, by omega, alike.akin⟩
  · -- The other books have less, so that their run is the one that may be cut short.
    have relates := (enriching other.meter.used books.meter.used).relates_authorise
      context program arguments (akin.symm.enriched more)
    have total := (precedes_authorise context program arguments other).total
    rw [ran] at relates
    generalize (authorise context program arguments).run other = ended at relates total ⊢
    cases relates with
    | ok _ alike =>
        have spent := alike.used
        exact ⟨_, rfl, by omega, alike.akin.symm⟩
    | short cut =>
        have spent := cut.spent
        simp only [Runs.final_ok, Runs.final_error] at spent total
        omega

/-! ### Judgements -/

namespace Graph

variable {graph : Graph} {view : LedgerView} {setting setting' : Setting}

/-- Programs whose bills other books can pay run up the same bills there, also in a
setting of which they observe the same. -/
theorem Bills.transfer {nodes : List (Nat × EntryId × Entry)} {before after other : Books}
    {costs : List Nat} (bills : graph.Bills view setting nodes before costs after)
    (observed : ∀ id hash guard, graph.guardContext setting' id hash guard =
      graph.guardContext setting id hash guard)
    (akin : before.Akin other) (afforded : costs.sum ≤ other.meter.remaining) :
    ∃ after', graph.Bills view setting' nodes other costs after' := by
  induction bills generalizing other with
  | done books => exact ⟨other, .done other⟩
  | unguarded free rest ih =>
      obtain ⟨last, bills⟩ := ih akin afforded
      exact ⟨last, .unguarded free bills⟩
  | @guarded index id entry guard hash nodes before middle after cost costs found hashed
      authorised used rest ih =>
      rw [List.sum_cons] at afforded
      obtain ⟨middle', authorised', used', akin'⟩ :=
        Machine.authorise_of_afforded authorised used akin (by omega)
      have total := (Machine.precedes_authorise (graph.guardContext setting id hash guard)
        guard.program entry.arguments other).total
      rw [authorised', Runs.final_ok] at total
      obtain ⟨last, bills⟩ := ih akin' (by omega)
      rw [← observed] at authorised'
      exact ⟨last, .guarded found hashed authorised' used' bills⟩

end Graph

namespace Meter

/-- Accounts that have used and owe the same are settled alike, whatever was left. -/
theorem settle_of_same {meter other : Meter} {exempt : Bool} {total : Nat}
    (settled : meter.settle exempt = .ok total) (used : other.used = meter.used)
    (storage : other.storageGas = meter.storageGas) (budget : other.budget = meter.budget)
    (adds : other.used + other.remaining = other.runLimit) :
    other.settle exempt = .ok total := by
  obtain ⟨small, -, within, same⟩ := settle_eq_ok.mp settled
  rw [← used, ← storage] at small within same
  exact settle_eq_ok.mpr ⟨small, adds, budget ▸ within, same⟩

end Meter

/-- The same setting but for the default credit. -/
def Setting.withCredit (setting : Setting) (credit : UInt64) : Setting :=
  { setting with params := { setting.params with defaultCredit := credit } }

namespace Graph

variable {graph : Graph} {view : LedgerView} {setting : Setting}

theorem openMeter_withCredit {meter : Meter} (opened : graph.openMeter setting = .ok meter)
    (credit : UInt64) :
    graph.openMeter (setting.withCredit credit) = .ok (.opening graph.header.fee
      graph.header.size (setting.withCredit credit).params setting.expired) := by
  obtain ⟨checked, coinbases, resulting, priced⟩ := openMeter_eq_ok.mp opened
  obtain ⟨free, storage, -⟩ := Meter.ofFee_eq_ok.mp priced
  have ruled := checkCoinbases_eq_ok.mp coinbases
  exact openMeter_eq_ok.mpr ⟨checked, checkCoinbases_eq_ok.mpr ruled, resulting,
    Meter.ofFee_eq_ok.mpr ⟨free, storage, rfl⟩⟩

variable {header : Header} {entries : List Entry} {results : List Nat}
  {gasUsed visited : Nat}

/-- What is valid under one credit is valid under every other. -/
theorem valid_withCredit (built : build header entries results = .ok graph)
    (owing : graph.hasCoinbase = false)
    (valid : (graph.judge view setting).outcome = .ok (.valid gasUsed visited))
    (credit : UInt64) :
    (graph.judge view (setting.withCredit credit)).outcome =
      .ok (.valid gasUsed visited) := by
  obtain ⟨meter, tally, costs, last, opened, timely, enough, visits, fee, templates, bills,
    settled, counted⟩ := outcome_judge_eq_valid_iff_bills.mp valid
  obtain ⟨-, -, resulting, priced⟩ := openMeter_eq_ok.mp opened
  obtain ⟨-, -, rfl⟩ := Meter.ofFee_eq_ok.mp priced
  have timely := timely (nodes_ne_nil_of_build built resulting)
  have billed := bills.billed enough
  let other : Meter := .opening graph.header.fee graph.header.size
    (setting.withCredit credit).params setting.expired
  -- The fee pays for all that is used, so that the other meter has as much.
  have room : graph.nodes.length * other.visitCost + costs.sum ≤ other.remaining := by
    obtain ⟨-, -, within, -⟩ := Meter.settle_eq_ok.mp settled
    have paid := within owing
    have used : last.meter.used = graph.nodes.length * other.visitCost + costs.sum :=
      billed.used
    have budget : last.meter.budget = other.budget := billed.budget
    have limit : other.budget ≤ other.remaining := Meter.budgetOf_le_runLimitOf _ _
    omega
  have enough' : graph.nodes.length * other.visitCost ≤ other.remaining :=
    Nat.le_of_add_right_le room
  have afforded : costs.sum ≤ (other.visited graph.nodes.length).remaining :=
    Nat.le_sub_of_add_le (Nat.add_comm costs.sum _ ▸ room)
  have transferred : ∃ last', graph.Bills view (setting.withCredit credit) graph.nodes
      (.ofMeter (other.visited graph.nodes.length) true) costs last' :=
    bills.transfer (fun _ _ _ => rfl)
      { exhausted := rfl, traced := rfl, timely := ⟨timely, timely⟩ } afforded
  obtain ⟨last', bills'⟩ := transferred
  have billed' := bills'.billed enough'
  refine outcome_judge_eq_valid_iff_bills.mpr ⟨other, tally, costs, last',
    openMeter_withCredit opened credit, fun _ => timely, enough', visits, fee, templates,
    bills', ?_, (billed'.visited.trans billed.visited.symm).trans counted⟩
  exact Meter.settle_of_same settled (billed'.used.trans billed.used.symm)
    (billed'.storage.trans billed.storage.symm) (billed'.budget.trans billed.budget.symm)
    billed'.total

/-- The default credit never decides whether a graph without a coinbase is accepted, nor
what its gas is. -/
theorem valid_withCredit_iff (built : build header entries results = .ok graph)
    (owing : graph.hasCoinbase = false) (credit : UInt64) :
    (graph.judge view (setting.withCredit credit)).outcome = .ok (.valid gasUsed visited) ↔
      (graph.judge view setting).outcome = .ok (.valid gasUsed visited) := by
  constructor
  · exact fun valid => valid_withCredit built owing valid setting.params.defaultCredit
  · exact fun valid => valid_withCredit built owing valid credit

end Graph

/-! ### Two muxes without credit -/

/-- A setting in which the default credit is more than a small fee buys. -/
def Setting.generous : Setting :=
  { Setting.sample with params := { Setting.sample.params with maxGas := 1000 } }

open Conservation in
theorem Graph.valid_withCredit_iff_of_twoMuxes :
    Meter.runLimitOf twoMuxesHeader.fee Setting.generous.params = 1000 ∧
      Meter.runLimitOf twoMuxesHeader.fee (Setting.generous.withCredit 0).params = 100 ∧
      ∃ graph, Graph.build twoMuxesHeader twoMuxes [2, 5] = .ok graph ∧
        graph.hasCoinbase = false ∧
        (graph.judge twoMuxesView .generous).outcome = .ok (.valid 40 6) ∧
        (graph.judge twoMuxesView (Setting.generous.withCredit 0)).outcome =
          .ok (.valid 40 6) := by
  obtain ⟨graph, built, owing, valid⟩ : ∃ graph,
      Graph.build twoMuxesHeader twoMuxes [2, 5] = .ok graph ∧ graph.hasCoinbase = false ∧
        (graph.judge twoMuxesView .generous).outcome = .ok (.valid 40 6) :=
    Graph.exists_of_judged (by decide +kernel)
  exact ⟨rfl, rfl, graph, built, owing, valid,
    (Graph.valid_withCredit_iff built owing 0).mpr valid⟩

end EntryLedger
