import EntryLedger.Proofs.Machine.Intact
import EntryLedger.Proofs.Transaction.Totals

/-!
# Where judging breaches

Judging ends in a verdict, with one exception.  The shortfall of an unbalanced
transaction is computed before it is reported, and it does not always fit its
word: what the muxes leave does, but not always less the fee.  Nothing else on
the way can breach; in particular no program can.
-/

namespace EntryLedger

/-- The fee check breaches when the fee is too far above what is left. -/
theorem Tally.checkFee_eq_breach {tally : Tally} {native : AssetId} {fee : UInt64}
    {breach : Breach} (fits : Number.fits tally.residual = true) :
    tally.checkFee native fee = .error (.breached breach) ↔
      breach = .residualOverflow ∧ fee.toNat < 2 ^ 63 ∧
        tally.residual + 2 ^ 63 < fee.toNat := by
  simp only [Number.fits, decide_eq_true_eq] at fits
  unfold checkFee
  by_cases small : fee.toNat < 2 ^ 63
  · have feeFits : Number.fits fee.toNat = true := by
      simp only [Number.fits, decide_eq_true_eq]
      omega
    simp only [feeFits, Bool.true_eq_false, if_false, small, true_and]
    by_cases exact : tally.residual = fee.toNat
    · simp only [if_pos exact, reduceCtorEq, false_iff, not_and]
      intro _
      omega
    · simp only [if_neg exact]
      by_cases far : tally.residual + 2 ^ 63 < fee.toNat
      · have unfit : ¬ Number.fits (tally.residual - fee.toNat) = true := by
          simp only [Number.fits, decide_eq_true_eq]
          omega
        simp only [if_neg unfit, Except.error.injEq, Refusal.breached.injEq, far, and_true]
        exact eq_comm
      · have shortfallFits : Number.fits (tally.residual - fee.toNat) = true := by
          simp only [Number.fits, decide_eq_true_eq]
          omega
        simp only [if_pos shortfallFits, far, and_false, Except.error.injEq, reduceCtorEq]
  · have unfit : Number.fits fee.toNat = false := by
      rw [← Bool.not_eq_true]
      simp only [Number.fits, decide_eq_true_eq]
      omega
    simp only [unfit, if_true, small, false_and, and_false, Except.error.injEq, reduceCtorEq]

namespace Graph

variable {graph : Graph} {view : LedgerView} {setting : Setting}

/-! ### Programs -/

/-- Running the programs of a transaction may refuse it, but does not breach. -/
theorem runGuard_ne_breach {tally : Tally} {index : Nat} {id : EntryId} {entry : Entry}
    {before after : Books} {breach : Breach} :
    (graph.runGuard setting tally index id entry).run before ≠
      .error (.breached breach) after := by
  unfold runGuard
  split
  · rintro ⟨⟩
  · rintro ⟨⟩
  · split
    · rintro ⟨⟩
    · rename_i guard _ _ hash _
      have intact := Machine.intact_authorise (graph.guardContext setting id hash guard)
        guard.program entry.arguments before
      intro breached
      change Judging.authorise id _ before = _ at breached
      unfold Judging.authorise at breached
      split at breached
      · cases breached
      · cases breached
      · rename_i ran
        exact intact _ _ ran

theorem runGuards_ne_breach {tally : Tally} {nodes : List (Nat × EntryId × Entry)}
    {before after : Books} {breach : Breach} :
    (graph.runGuards setting tally nodes).run before ≠ .error (.breached breach) after := by
  induction nodes generalizing before with
  | nil => rintro ⟨⟩
  | cons node nodes ih =>
      obtain ⟨index, id, entry⟩ := node
      intro breached
      rcases Runs.bind_eq_error.mp breached with here | ⟨_, middle, -, later⟩
      · exact runGuard_ne_breach here
      · exact ih later

/-- Only what precedes the programs can breach. -/
theorem outcome_judge_eq_error {breach : Breach} :
    (graph.judge view setting).outcome = .error breach ↔
      graph.vet view setting = .error (.breached breach) := by
  have rejected (rejection : Rejection) (journal : Journal) :
      (Judgement.refuse (.rejected rejection) journal).outcome ≠ .error breach := by
    simp [Judgement.refuse]
  unfold judge
  cases vetted : graph.vet view setting with
  | error refusal =>
      cases refusal with
      | rejected rejection => simp [Judgement.refuse]
      | breached found => simp [Judgement.refuse]
  | ok found =>
      obtain ⟨meter, tally⟩ := found
      simp only [reduceCtorEq, iff_false]
      split
      · rename_i refusal books ran
        cases refusal with
        | rejected rejection => exact rejected rejection books.journal
        | breached found => exact (runGuards_ne_breach ran).elim
      · split
        · exact rejected _ _
        · simp

/-- Everything before the fee is checked has passed, with some tally. -/
def Walked (graph : Graph) (view : LedgerView) (setting : Setting) (tally : Tally) : Prop :=
  ∃ meter walked, graph.openMeter setting = .ok meter ∧
    graph.walk view setting.params.nativeAsset graph.nodes meter .start = .ok (walked, tally)

/-- Vetting breaches in the fee check or not at all. -/
theorem vet_eq_breach {breach : Breach} :
    graph.vet view setting = .error (.breached breach) ↔
      ∃ tally, graph.Walked view setting tally ∧
        tally.checkFee setting.params.nativeAsset graph.header.fee =
          .error (.breached breach) := by
  have renamed {Result : Type} (check : Except Rejection Result) :
      check.mapError Refusal.rejected ≠ .error (.breached breach) := by
    rw [ne_eq, Checks.mapError_eq_error]
    rintro ⟨_, -, ⟨⟩⟩
  constructor
  · intro breached
    unfold vet at breached
    rcases Checks.bind_eq_error.mp breached with early | ⟨meter, opened, breached⟩
    · exact (renamed _ early).elim
    · rcases Checks.bind_eq_error.mp breached with early | ⟨⟨walked, tally⟩, finished, breached⟩
      · exact (renamed _ early).elim
      · refine ⟨tally, ⟨meter, walked, Checks.mapError_eq_ok.mp opened,
          Checks.mapError_eq_ok.mp finished⟩, ?_⟩
        rcases Checks.bind_eq_error.mp breached with here | ⟨_, -, later⟩
        · exact here
        · split at later
          · rcases Checks.bind_eq_error.mp later with early | ⟨_, -, impossible⟩
            · exact (renamed _ early).elim
            · cases impossible
          · cases later
  · rintro ⟨tally, ⟨meter, walked, opened, finished⟩, breached⟩
    unfold vet
    refine Checks.bind_eq_error.mpr (.inr ⟨meter, Checks.mapError_eq_ok.mpr opened, ?_⟩)
    refine Checks.bind_eq_error.mpr
      (.inr ⟨(walked, tally), Checks.mapError_eq_ok.mpr finished, ?_⟩)
    exact Checks.bind_eq_error.mpr (.inl breached)

theorem Walked.visits {tally : Tally} (walked : graph.Walked view setting tally) :
    graph.Visits view setting.params.nativeAsset graph.nodes .start tally := by
  obtain ⟨_, _, -, finished⟩ := walked
  exact visits_of_walk finished

/-- A built graph breaches exactly when its fee is too far above what its muxes
leave. -/
theorem outcome_judge_eq_error_iff {breach : Breach} :
    (graph.judge view setting).outcome = .error breach ↔
      breach = .residualOverflow ∧ ∃ tally, graph.Walked view setting tally ∧
        graph.header.fee.toNat < 2 ^ 63 ∧ tally.residual + 2 ^ 63 < graph.header.fee.toNat := by
  rw [outcome_judge_eq_error, vet_eq_breach]
  have fits {tally : Tally} (walked : graph.Walked view setting tally) :
      Number.fits tally.residual = true :=
    walked.visits.fits_residual (by decide)
  constructor
  · rintro ⟨tally, walked, breached⟩
    obtain ⟨same, small, far⟩ := (Tally.checkFee_eq_breach (fits walked)).mp breached
    exact ⟨same, tally, walked, small, far⟩
  · rintro ⟨same, tally, walked, small, far⟩
    exact ⟨tally, walked, (Tally.checkFee_eq_breach (fits walked)).mpr ⟨same, small, far⟩⟩

end Graph

/-- Judging bytes ends in a verdict unless they encode a transaction that passes
everything before the fee is checked, and whose outputs and fee exceed its
inputs by more than the word of balances holds. -/
theorem judgeBytes_eq_error_iff (bytes : Bytes) (view : LedgerView) (setting : Setting)
    (breach : Breach) :
    (judgeBytes bytes view setting).outcome = .error breach ↔
      breach = .residualOverflow ∧ ∃ tx tally,
        Sealed.decode bytes setting.params.maxTransactionSize = .ok tx ∧
        tx.graph.Walked view setting tally ∧
        tx.transaction.fee.toNat < 2 ^ 63 ∧
        Value.total (tx.transaction.inputs.map Input.value) setting.params.nativeAsset +
            2 ^ 63 <
          Value.total (tx.transaction.outputs.map Payment.value) setting.params.nativeAsset +
            tx.transaction.fee.toNat := by
  unfold judgeBytes
  cases decoded : Sealed.decode bytes setting.params.maxTransactionSize with
  | error error => simp [Judgement.refuse]
  | ok tx =>
      have made : tx.Made := .decoded decoded
      have sameFee : tx.graph.header.fee = tx.transaction.fee := by
        rw [Graph.header_of_build made.built]
        rfl
      simp only [Sealed.judge, Graph.outcome_judge_eq_error_iff, sameFee, Except.ok.injEq]
      -- What the walk leaves is the difference of inputs and outputs.
      have left {tally : Tally} (walked : tx.graph.Walked view setting tally) :=
        made.left_eq walked.visits setting.params.nativeAsset
      simp only [Tally.left, if_true] at left
      constructor
      · rintro ⟨same, tally, walked, small, far⟩
        have difference := left walked
        exact ⟨same, tx, tally, rfl, walked, small, by omega⟩
      · rintro ⟨same, _, tally, rfl, walked, small, far⟩
        have difference := left walked
        exact ⟨same, tally, walked, small, by omega⟩

/-! ### An overdraft of the whole word -/

namespace Breach

private def native (amount : UInt64) : Value :=
  { asset := AssetId.native, amount := amount }

/-- A coinbase that brings nothing in and pays out as much as balances hold. -/
def overdraft : Transaction where
  version := 1
  timeRange := { earliest := 0, latest := 0 }
  fee := 1
  inputs := [.coinbase { value := native 0, data := [] }]
  outputs := [
    { value := native 9223372036854775807, program := Transaction.muxProgram },
    { value := native 1, program := Transaction.muxProgram }]

def emptyView : LedgerView where
  output? := fun _ => none
  definition? := fun _ => none

end Breach

open Breach in
theorem judgeBytes_breaches_at_overdraft :
    (judgeBytes overdraft.encode emptyView .sample).outcome = .error .residualOverflow := by
  have breached : (match (judgeBytes overdraft.encode emptyView .sample).outcome with
      | .error breach => some breach
      | .ok _ => none) = some Breach.residualOverflow := by
    decide +kernel
  split at breached
  · rename_i same
    rw [same, Option.some.inj breached]
  · cases breached

end EntryLedger
