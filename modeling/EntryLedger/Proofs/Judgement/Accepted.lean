import EntryLedger.Judgement
import EntryLedger.Proofs.Judgement.Visit

/-!
# Accepted transactions

A graph is accepted only after every part of its judgement has succeeded.  Here
the judgement is taken apart into these parts, which other modules study one
by one.  Each part that does not look at links has few causes to refuse for.
-/

namespace EntryLedger

open Checks (FailsOnly)

/-! ### What the parts refuse for -/

/-- What a header can be refused for. -/
inductive Header.Refuses : Cause → Prop
  | version (version highest : UInt64) : Refuses (.transactionVersion version highest)
  | size (size limit : UInt64) : Refuses (.wrongTransactionSize size limit)
  | time (time : UInt64) (range : TimeRange) : Refuses (.badTimeRange time range)

theorem Header.refuses_check (header : Header) (params : Params) (blockTime : UInt64) :
    FailsOnly Header.Refuses (header.check params blockTime) := by
  fun_cases Header.check with
  | case1 => exact .error (.version _ _)
  | case2 => exact .error (.size _ _)
  | case3 => exact .error (.time _ _)
  | case4 => exact .ok _

/-- What a coinbase can be refused for. -/
inductive Coinbase.Refuses (coinbase : Coinbase) : Cause → Prop
  | misplaced (rule : CoinbaseRule) : Refuses coinbase (.wrongCoinbase rule)
  | oversize (size limit : Nat) : Refuses coinbase (.coinbaseOversize size limit)
  | foreign (asset : AssetId) : Refuses coinbase (.wrongCoinbaseAsset asset)
  | incomplete (missing : coinbase.destination = none) :
      Refuses coinbase (.missingField .destination)

theorem Coinbase.refuses_check (setting : Setting) (inputCount : Nat) (coinbase : Coinbase) :
    FailsOnly coinbase.Refuses (coinbase.check setting inputCount) := by
  fun_cases Coinbase.check with
  | case1 => exact .error (.misplaced _)
  | case2 => exact .error (.misplaced _)
  | case3 => exact .error (.misplaced _)
  | case4 => exact .error (.oversize _ _)
  | case5 _ _ _ _ _ missing => exact .error (.incomplete missing)
  | case6 => exact .error (.foreign _)
  | case7 => exact .ok _

theorem refuses_checkCoinbases (setting : Setting) (inputCount : Nat)
    (nodes : List (Nat × EntryId × Entry)) :
    FailsOnly (fun rejection => ∃ index id coinbase, (index, id, .coinbase coinbase) ∈ nodes ∧
      coinbase.Refuses rejection.cause) (checkCoinbases setting inputCount nodes) := by
  fun_induction checkCoinbases setting inputCount nodes with
  | case1 => exact .ok _
  | case2 index id coinbase nodes cause failed =>
      exact .error ⟨index, id, coinbase, List.mem_cons_self ..,
        coinbase.refuses_check setting inputCount cause failed⟩
  | case3 index id coinbase nodes passed ih =>
      refine ih.mono fun rejection => ?_
      rintro ⟨index, id, coinbase, member, refuses⟩
      exact ⟨index, id, coinbase, List.mem_cons_of_mem _ member, refuses⟩
  | case4 node nodes other ih =>
      refine ih.mono fun rejection => ?_
      rintro ⟨index, id, coinbase, member, refuses⟩
      exact ⟨index, id, coinbase, List.mem_cons_of_mem _ member, refuses⟩

/-- Like the account of a mux, the fee is refused for what does not fit or is left over. -/
theorem Tally.refuses_checkFee (tally : Tally) (native : AssetId) (fee : UInt64) :
    FailsOnly (fun refusal => ∀ rejection, refusal = .rejected rejection →
      Balance.Refuses rejection.cause) (tally.checkFee native fee) := by
  fun_cases Tally.checkFee with
  | case1 =>
      refine .error ?_
      rintro _ ⟨⟩
      exact .overflow
  | case2 => exact .ok _
  | case3 =>
      refine .error ?_
      rintro _ ⟨⟩
      exact .unbalanced _ _
  | case4 =>
      refine .error ?_
      rintro _ ⟨⟩

theorem refuses_checkTemplates (native : AssetId) (nodes : List (Nat × EntryId × Entry)) :
    FailsOnly (fun rejection => rejection.cause = .notStandard)
      (checkTemplates native nodes) := by
  fun_induction checkTemplates native nodes with
  | case1 => exact .ok _
  | case2 => exact .error rfl
  | case3 _ _ _ _ _ ih => exact ih

/-! ### What the parts ask for -/

/-- The fee is checked exactly, and it has to fit the word of balances. -/
theorem Tally.checkFee_eq_ok {tally : Tally} {native : AssetId} {fee : UInt64} :
    tally.checkFee native fee = .ok () ↔
      fee.toNat < 2 ^ 63 ∧ tally.residual = fee.toNat := by
  have fits : Number.fits fee.toNat = true ↔ fee.toNat < 2 ^ 63 := by
    simp only [Number.fits, decide_eq_true_eq]
    omega
  unfold checkFee
  by_cases small : fee.toNat < 2 ^ 63
  · simp only [fits.mpr small, Bool.true_eq_false, if_false, small, true_and]
    by_cases exact : tally.residual = fee.toNat
    · simp [exact]
    · rw [if_neg exact]
      split
      · simp [exact]
      · simp [exact]
  · have unfit : Number.fits fee.toNat = false := by
      rw [← Bool.not_eq_true, fits]
      exact small
    simp only [unfit, if_true, small, false_and, reduceCtorEq]

namespace Graph

variable {graph : Graph} {view : LedgerView} {setting : Setting}

theorem vet_eq_ok {walked : Meter} {tally : Tally} :
    graph.vet view setting = .ok (walked, tally) ↔
      ∃ meter, graph.openMeter setting = .ok meter ∧
        graph.walk view setting.params.nativeAsset graph.nodes meter .start =
          .ok (walked, tally) ∧
        tally.checkFee setting.params.nativeAsset graph.header.fee = .ok () ∧
        (setting.requiresTemplates = true →
          checkTemplates setting.params.nativeAsset graph.nodes = .ok ()) := by
  simp only [vet, Checks.bind_eq_ok, Checks.mapError_eq_ok, Unique.exists_iff]
  refine exists_congr fun meter => and_congr_right fun _ => ?_
  constructor
  · rintro ⟨⟨foundMeter, foundTally⟩, walkOk, feeOk, templatesOk⟩
    cases wanted : setting.requiresTemplates with
    | false =>
        simp only [wanted, Bool.false_eq_true, if_false, Checks.pure_eq_ok,
          Except.ok.injEq, Prod.mk.injEq] at templatesOk
        obtain ⟨rfl, rfl⟩ := templatesOk
        exact ⟨walkOk, feeOk, fun impossible => by cases impossible⟩
    | true =>
        simp only [wanted, if_true, Checks.bind_eq_ok, Checks.mapError_eq_ok,
          Checks.pure_eq_ok, Except.ok.injEq, Prod.mk.injEq] at templatesOk
        obtain ⟨_, checked, rfl, rfl⟩ := templatesOk
        exact ⟨walkOk, feeOk, fun _ => checked⟩
  · rintro ⟨walkOk, feeOk, templatesOk⟩
    refine ⟨(walked, tally), walkOk, feeOk, ?_⟩
    cases wanted : setting.requiresTemplates with
    | false => simp
    | true => simp [templatesOk wanted]

/-- A graph is valid exactly when it is vetted, all its programs succeed, and
the gas is settled. -/
theorem outcome_judge_eq_valid {gasUsed visited : Nat} :
    (graph.judge view setting).outcome = .ok (.valid gasUsed visited) ↔
      ∃ meter tally books, graph.vet view setting = .ok (meter, tally) ∧
        (graph.runGuards setting tally graph.nodes).run (.ofMeter meter true) =
          .ok () books ∧
        books.meter.settle graph.hasCoinbase = .ok gasUsed ∧
        books.meter.entriesVisited = visited := by
  have refused (refusal : Refusal) (journal : Journal) :
      (Judgement.refuse refusal journal).outcome ≠ .ok (.valid gasUsed visited) := by
    cases refusal with
    | rejected rejection => simp [Judgement.refuse]
    | breached breach => simp [Judgement.refuse]
  unfold judge
  cases vetted : graph.vet view setting with
  | error refusal => simp [refused]
  | ok found =>
      obtain ⟨meter, tally⟩ := found
      cases ran : (graph.runGuards setting tally graph.nodes).run (.ofMeter meter true) with
      | error refusal books => simp [ran, refused]
      | ok result books =>
          cases settled : books.meter.settle graph.hasCoinbase with
          | error error => simp [ran, settled, refused]
          | ok total => simp [ran, settled]

/-- What acceptance says about the walk: every node was visited, and the muxes
left exactly the fee. -/
theorem visits_of_valid {gasUsed visited : Nat}
    (valid : (graph.judge view setting).outcome = .ok (.valid gasUsed visited)) :
    ∃ tally, graph.Visits view setting.params.nativeAsset graph.nodes .start tally ∧
      tally.residual = graph.header.fee.toNat := by
  obtain ⟨_, tally, _, vetted, -⟩ := outcome_judge_eq_valid.mp valid
  obtain ⟨_, -, walked, feeChecked, -⟩ := vet_eq_ok.mp vetted
  exact ⟨tally, visits_of_walk walked, (Tally.checkFee_eq_ok.mp feeChecked).2⟩

end Graph

/-- A setting for examples, in which nothing but programs costs gas and little
gas is granted. -/
def Setting.sample : Setting where
  params := { Params.main with
    gasPrice := 1, storageRate := 0, maxGas := 100, visitCost := 0 }
  blockHeight := 0
  blockTime := 0
  position := none
  requiresTemplates := false
  expired := false
  verifySignature := fun _ _ _ => false

end EntryLedger
