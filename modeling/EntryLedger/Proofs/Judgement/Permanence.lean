import EntryLedger.Proofs.Judgement.Authorisation

/-!
# Permanent rejections

A judgement asks the ledger for the outputs that are spent and for the
definitions that the transaction leaves out, and for nothing else.  Hence a
rejection either rests on such an answer or stands against every ledger.  Where
the spent output is not recorded, the rejection is temporary; where the ledger
records something else than the transaction says, or no definition, it is not,
although another ledger may accept the transaction.
-/

namespace EntryLedger

/-! ### Answers of a ledger -/

/-- What a ledger answers about an entry speaks against the entry, for the cause
that is given. -/
inductive LedgerView.Denies (view : LedgerView) : Entry → Cause → Prop
  /-- The spent output is recorded with another value than the spend passes on. -/
  | revalued {spend : Spend} {link : Link} {recorded : Value} {cause : Cause}
      (destined : spend.destination = some link)
      (known : view.output? spend.spentOutput = some recorded)
      (differs : checkValue recorded link.value = .error cause) :
      Denies view (.spend spend) cause
  /-- The issuance leaves its definition out, and none is recorded. -/
  | undefined {issuance : Issuance} (omitted : issuance.definition = none)
      (unknown : view.definition? issuance.value.asset = none) :
      Denies view (.issuance issuance) (.missingField .definition)
  /-- The issuance leaves its definition out, and the one that is recorded defines
  another asset. -/
  | misdefined {issuance : Issuance} {definition : Definition}
      (omitted : issuance.definition = none)
      (known : view.definition? issuance.value.asset = some definition)
      (differs : definition.assetId ≠ issuance.value.asset) :
      Denies view (.issuance issuance)
        (.mismatchedAsset issuance.value.asset definition.assetId)

/-- The kinds of the causes for which a ledger denies an entry. -/
theorem LedgerView.Denies.kind_eq {view : LedgerView} {entry : Entry} {cause : Cause}
    (denies : view.Denies entry cause) :
    cause.kind = .mismatchedAsset ∨ cause.kind = .mismatchedValue ∨
      cause.kind = .missingField := by
  cases denies with
  | revalued destined known differs =>
      unfold checkValue at differs
      split at differs
      · cases differs
        exact .inl rfl
      · split at differs
        · cases differs
          exact .inr (.inl rfl)
        · cases differs
  | undefined => exact .inr (.inr rfl)
  | misdefined => exact .inl rfl

namespace Graph

variable {graph : Graph} {view other : LedgerView} {native : AssetId}

/-- The walk comes to an entry that does not pass because of what the ledger
answers about it. -/
inductive Denied (graph : Graph) (view : LedgerView) (native : AssetId) :
    List (Nat × EntryId × Entry) → Tally → Rejection → Prop
  | here {index : Nat} {id : EntryId} {entry : Entry}
      {nodes : List (Nat × EntryId × Entry)} {before : Tally} {cause : Cause}
      (failed : graph.examine view native before index entry = .error cause)
      (denies : view.Denies entry cause) :
      Denied graph view native ((index, id, entry) :: nodes) before
        { cause := cause, entry := some id }
  | later {index : Nat} {id : EntryId} {entry : Entry}
      {nodes : List (Nat × EntryId × Entry)} {before middle : Tally} {rejection : Rejection}
      (examined : graph.examine view native before index entry = .ok middle)
      (denied : Denied graph view native nodes middle rejection) :
      Denied graph view native ((index, id, entry) :: nodes) before rejection

theorem Denied.kind_eq {nodes : List (Nat × EntryId × Entry)} {before : Tally}
    {rejection : Rejection} (denied : graph.Denied view native nodes before rejection) :
    rejection.cause.kind = .mismatchedAsset ∨ rejection.cause.kind = .mismatchedValue ∨
      rejection.cause.kind = .missingField := by
  induction denied with
  | here _ denies => exact denies.kind_eq
  | later _ _ ih => exact ih

/-- Two views define an asset that the graph issues, and leaves undefined, by two
definitions with one digest. -/
def DefinedTwice (graph : Graph) (view other : LedgerView) : Prop :=
  ∃ issuance definition definition', Entry.issuance issuance ∈ graph.entries ∧
    issuance.definition = none ∧
    view.definition? issuance.value.asset = some definition ∧
    other.definition? issuance.value.asset = some definition' ∧
    definition.assetId = issuance.value.asset ∧
    definition'.assetId = issuance.value.asset ∧ definition ≠ definition'

/-! ### One entry -/

/-- A spend that passes against one ledger passes against another one, unless
that one does not record the output or denies the spend. -/
theorem checkSpend_eq_ok_or_denies {tally next : Tally} {index : Nat} {spend : Spend}
    (passed : graph.checkSpend other tally index spend = .ok next) :
    graph.checkSpend view tally index spend = .ok next ∨
      ∃ cause, graph.checkSpend view tally index spend = .error cause ∧
        (cause.kind = .orphanInput ∨ view.Denies (.spend spend) cause) := by
  obtain ⟨link, destined, unused, -, crossed, rfl⟩ := checkSpend_eq_ok.mp passed
  cases known : view.output? spend.spentOutput with
  | none =>
      right
      refine ⟨.orphanInput spend.spentOutput, ?_, .inl rfl⟩
      simp [checkSpend, requireDestination, destined, unused, known]
  | some recorded =>
      cases compared : checkValue recorded link.value with
      | error cause =>
          right
          refine ⟨cause, ?_, .inr (.revalued destined known compared)⟩
          simp [checkSpend, requireDestination, destined, unused, known, compared]
      | ok agreed =>
          left
          obtain rfl := checkValue_eq_ok.mp compared
          exact checkSpend_eq_ok.mpr ⟨link, destined, unused, known, crossed, rfl⟩

theorem checkIssuance_eq_ok_or_denies (once : ¬ graph.DefinedTwice view other)
    {tally next : Tally} {index : Nat} {issuance : Issuance}
    (member : Entry.issuance issuance ∈ graph.entries)
    (passed : graph.checkIssuance other tally index issuance = .ok next) :
    graph.checkIssuance view tally index issuance = .ok next ∨
      ∃ cause, graph.checkIssuance view tally index issuance = .error cause ∧
        view.Denies (.issuance issuance) cause := by
  obtain ⟨link, definition', destined, supplied, defined', same, crossed, learned⟩ :=
    checkIssuance_eq_ok.mp passed
  have passes (supplies : issuance.definition.or (view.definition? issuance.value.asset) =
      some definition') : graph.checkIssuance view tally index issuance = .ok next :=
    checkIssuance_eq_ok.mpr
      ⟨link, definition', destined, supplies, defined', same, crossed, learned⟩
  cases omitted : issuance.definition with
  | some definition =>
      left
      apply passes
      rw [omitted] at supplied ⊢
      exact supplied
  | none =>
      rw [omitted, Option.none_or] at supplied
      cases known : view.definition? issuance.value.asset with
      | none =>
          right
          refine ⟨_, ?_, .undefined omitted known⟩
          simp [checkIssuance, requireDestination, destined, omitted, known]
      | some definition =>
          by_cases defined : definition.assetId = issuance.value.asset
          · left
            apply passes
            rw [omitted, Option.none_or, known]
            by_contra differs
            exact once ⟨issuance, definition, definition', member, omitted, known, supplied,
              defined, defined', fun agreed => differs (congrArg some agreed)⟩
          · right
            refine ⟨_, ?_, .misdefined omitted known defined⟩
            simp [checkIssuance, requireDestination, destined, omitted, known, defined]

theorem examine_eq_ok_or_denies (once : ¬ graph.DefinedTwice view other) {tally next : Tally}
    {index : Nat} {entry : Entry} (member : entry ∈ graph.entries)
    (passed : graph.examine other native tally index entry = .ok next) :
    graph.examine view native tally index entry = .ok next ∨
      ∃ cause, graph.examine view native tally index entry = .error cause ∧
        (cause.kind = .orphanInput ∨ view.Denies entry cause) := by
  cases entry with
  | spend spend => exact checkSpend_eq_ok_or_denies passed
  | issuance issuance =>
      refine (checkIssuance_eq_ok_or_denies once member passed).imp_right ?_
      rintro ⟨cause, failed, denies⟩
      exact ⟨cause, failed, .inr denies⟩
  | output output => exact .inl passed
  | retirement retirement => exact .inl passed
  | mux mux => exact .inl passed
  | coinbase coinbase => exact .inl passed

/-! ### Walks and judgements -/

theorem walk_eq_ok_or_denied (once : ¬ graph.DefinedTwice view other)
    {nodes : List (Nat × EntryId × Entry)}
    (inside : ∀ node ∈ nodes, node.2.2 ∈ graph.entries) {meter : Meter} {tally : Tally}
    {walked : Meter × Tally}
    (passed : graph.walk other native nodes meter tally = .ok walked) :
    graph.walk view native nodes meter tally = .ok walked ∨
      ∃ rejection, graph.walk view native nodes meter tally = .error rejection ∧
        (rejection.cause.kind = .orphanInput ∨
          graph.Denied view native nodes tally rejection) := by
  induction nodes generalizing meter tally with
  | nil => exact .inl passed
  | cons node nodes ih =>
      obtain ⟨index, id, entry⟩ := node
      obtain ⟨member, inside⟩ := List.forall_mem_cons.mp inside
      rw [walk] at passed ⊢
      cases visited : Meter.visitEntry.run meter with
      | error error spent =>
          rw [visited] at passed
          cases passed
      | ok result paid =>
          rw [visited] at passed
          simp only at passed ⊢
          cases examined' : graph.examine other native tally index entry with
          | error cause =>
              rw [examined'] at passed
              cases passed
          | ok next =>
              rw [examined'] at passed
              rcases examine_eq_ok_or_denies once member examined' with
                examined | ⟨cause, failed, orphan | denies⟩
              · rw [examined]
                refine (ih inside passed).imp_right ?_
                rintro ⟨rejection, refused, orphan | denied⟩
                · exact ⟨rejection, refused, .inl orphan⟩
                · exact ⟨rejection, refused, .inr (.later examined denied)⟩
              · rw [failed]
                exact .inr ⟨_, rfl, .inl orphan⟩
              · rw [failed]
                exact .inr ⟨_, rfl, .inr (.here failed denies)⟩

theorem outcome_judge_of_walk {setting : Setting} {meter : Meter} {rejection : Rejection}
    (opened : graph.openMeter setting = .ok meter)
    (failed : graph.walk view setting.params.nativeAsset graph.nodes meter .start =
      .error rejection) :
    (graph.judge view setting).outcome = .ok (.invalid rejection) := by
  have vetted : graph.vet view setting = .error (.rejected rejection) := by
    simp only [vet, opened, failed, Checks.mapError_ok, Checks.ok_bind, Checks.mapError_error,
      Checks.error_bind]
  rw [judge, vetted]
  rfl

/-- Against two ledgers a graph is judged alike, unless the second one rejects it,
or the first one rejects it for an output that is not recorded or for an answer
that denies an entry. -/
theorem judge_eq_or_rejected (once : ¬ graph.DefinedTwice view other) (setting : Setting) :
    graph.judge view setting = graph.judge other setting ∨
      (∃ rejection, (graph.judge other setting).outcome = .ok (.invalid rejection)) ∨
      ∃ rejection, (graph.judge view setting).outcome = .ok (.invalid rejection) ∧
        (rejection.cause.kind = .orphanInput ∨
          graph.Denied view setting.params.nativeAsset graph.nodes .start rejection) := by
  cases opened : graph.openMeter setting with
  | error rejection =>
      left
      have vetted : graph.vet view setting = graph.vet other setting := by
        simp only [vet, opened, Checks.mapError_error, Checks.error_bind]
      rw [judge, judge, vetted]
  | ok meter =>
      have inside : ∀ node ∈ graph.nodes, node.2.2 ∈ graph.entries :=
        fun _ member => List.mem_of_getElem? (getElem?_of_mem_nodes member)
      cases walked' : graph.walk other setting.params.nativeAsset graph.nodes meter .start with
      | error rejection =>
          right; left
          exact ⟨rejection, outcome_judge_of_walk opened walked'⟩
      | ok found =>
          rcases walk_eq_ok_or_denied once inside walked' with
            walked | ⟨rejection, failed, reason⟩
          · left
            have vetted : graph.vet view setting = graph.vet other setting := by
              simp only [vet, opened, Checks.mapError_ok, Checks.ok_bind]
              rw [walked, walked']
            rw [judge, judge, vetted]
          · right; right
            exact ⟨rejection, outcome_judge_of_walk opened failed, reason⟩

end Graph

/-- A rejection that is not temporary stands against every other ledger, unless the
walk came to an entry that the first ledger denies: it records the spent output
with another value, no definition of the issued asset, or one of another asset.
The only other way for two ledgers to disagree is that they know the issued asset
by two definitions, which then have one digest. -/
theorem Sealed.rejection_permanent {tx : Sealed} {view : LedgerView} {setting : Setting}
    {rejection : Rejection} (other : LedgerView)
    (rejected : (tx.judge view setting).outcome = .ok (.invalid rejection))
    (permanent : rejection.cause.kind.isTemporary = false)
    (undenied : ¬ tx.graph.Denied view setting.params.nativeAsset tx.graph.nodes .start
      rejection) :
    (∃ rejection', (tx.judge other setting).outcome = .ok (.invalid rejection')) ∨
      tx.graph.DefinedTwice view other := by
  by_cases once : tx.graph.DefinedTwice view other
  · exact .inr once
  · left
    rcases Graph.judge_eq_or_rejected once setting with
      same | refused | ⟨found, foundOutcome, reason⟩
    · refine ⟨rejection, ?_⟩
      rw [Sealed.judge, ← same]
      exact rejected
    · exact refused
    · have isFound : found = rejection := by
        simpa [Sealed.judge, foundOutcome] using rejected
      subst isFound
      rcases reason with orphan | denied
      · rw [orphan] at permanent
        cases permanent
      · exact (undenied denied).elim

namespace Permanence

open Authorisation

/-- A setting in which native value has to be guarded by templates. -/
def strictSetting : Setting :=
  { Setting.sample with requiresTemplates := true }

def otherDefinition : Definition :=
  { freeDefinition with data := [2] }

/-- The view of the exchange before the issued asset is defined. -/
def undefinedView : LedgerView :=
  { exchangeView with definition? := fun _ => none }

/-- A view that takes the definition of another asset for that of the issued one. -/
def misdefinedView : LedgerView :=
  { exchangeView with definition? := fun _ => some otherDefinition }

/-- A view that records less in the spent output. -/
def devaluedView : LedgerView :=
  { exchangeView with output? := fun _ => some { oldCoin.value with amount := 109 } }

/-- A view that records another asset in the spent output. -/
def foreignView : LedgerView :=
  { exchangeView with output? := fun _ => some { oldCoin.value with asset := Digest.zero } }

/-- A view that contradicts the one of the exchange in all that it is asked. -/
def contraryView : LedgerView where
  output? := devaluedView.output?
  definition? := misdefinedView.definition?

/-- Ledgers that deny an entry of the exchange, and the kinds of the rejections. -/
def denials : List (LedgerView × RejectionKind) :=
  [(undefinedView, .missingField), (misdefinedView, .mismatchedAsset),
    (devaluedView, .mismatchedValue), (foreignView, .mismatchedAsset)]

/-- The cause that a verdict gives for a rejection. -/
def cause? : Verdict → Option Cause
  | .valid _ _ => none
  | .invalid rejection => some rejection.cause

theorem exists_invalid {outcome : Except Breach Verdict} {cause : Cause}
    (found : outcome.toOption.bind cause? = some cause) :
    ∃ rejection, outcome = .ok (.invalid rejection) ∧ rejection.cause = cause := by
  obtain ⟨verdict, reached, given⟩ := Option.bind_eq_some_iff.mp found
  have reached := Checks.toOption_eq_some.mp reached
  cases verdict with
  | valid gasUsed visited => cases given
  | invalid rejection => exact ⟨rejection, reached, Option.some.inj given⟩

end Permanence

open Authorisation Permanence in
/-- What is rejected for a program that is no template is rejected against a ledger
that answers everything differently. -/
theorem Sealed.rejection_permanent_of_strictSetting :
    ∃ tx rejection, Sealed.ofTransaction exchange = .ok tx ∧
      (tx.judge exchangeView strictSetting).outcome = .ok (.invalid rejection) ∧
      rejection.cause = .notStandard ∧
      ∃ rejection', (tx.judge contraryView strictSetting).outcome =
        .ok (.invalid rejection') := by
  have judged : (Sealed.ofTransaction exchange).toOption.bind (fun tx =>
      (tx.judge exchangeView strictSetting).outcome.toOption.bind cause?) =
        some .notStandard := by
    decide +kernel
  obtain ⟨tx, sealed, found⟩ := Option.bind_eq_some_iff.mp judged
  obtain ⟨rejection, rejected, cause⟩ := exists_invalid found
  have undenied : ¬ tx.graph.Denied exchangeView strictSetting.params.nativeAsset
      tx.graph.nodes .start rejection := by
    intro denied
    have kinds := denied.kind_eq
    rw [cause] at kinds
    exact absurd kinds (by decide)
  have once : ¬ tx.graph.DefinedTwice exchangeView contraryView := by
    rintro ⟨issuance, _, _, -, -, known, known', defined, defined', -⟩
    cases known
    cases known'
    exact absurd (defined.trans defined'.symm) (by decide +kernel)
  have stands := Sealed.rejection_permanent contraryView rejected (by rw [cause]; rfl) undenied
  exact ⟨tx, rejection, Checks.toOption_eq_some.mp sealed, rejected, cause,
    stands.resolve_right once⟩

open Authorisation Permanence in
/-- For every answer that denies an entry there is a rejection that is not temporary,
and against a ledger that answers otherwise the same transaction is accepted. -/
theorem Sealed.rejection_not_permanent :
    ∃ tx, Sealed.ofTransaction exchange = .ok tx ∧
      (tx.judge exchangeView .sample).outcome = .ok (.valid 30 5) ∧
      ∀ denial ∈ denials, ∃ rejection,
        (tx.judge denial.1 .sample).outcome = .ok (.invalid rejection) ∧
        rejection.cause.kind = denial.2 ∧ rejection.cause.kind.isTemporary = false := by
  have judged : (Sealed.ofTransaction exchange).toOption.any (fun tx =>
      (tx.judge exchangeView .sample).outcome.toOption = some (.valid 30 5) ∧
        ∀ denial ∈ denials, ((tx.judge denial.1 .sample).outcome.toOption.bind cause?).map
          Cause.kind = some denial.2) = true := by
    decide +kernel
  obtain ⟨tx, sealed, found⟩ := (Option.any_eq_true _ _).mp judged
  obtain ⟨valid, denied⟩ := of_decide_eq_true found
  refine ⟨tx, Checks.toOption_eq_some.mp sealed, Checks.toOption_eq_some.mp valid, ?_⟩
  intro denial member
  obtain ⟨cause, given, kind⟩ := Option.map_eq_some_iff.mp (denied denial member)
  obtain ⟨rejection, rejected, rfl⟩ := exists_invalid given
  have lasting : ∀ denial ∈ denials, denial.2.isTemporary = false := by decide
  exact ⟨rejection, rejected, kind, kind ▸ lasting denial member⟩

end EntryLedger
