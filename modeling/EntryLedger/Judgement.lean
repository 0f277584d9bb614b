import EntryLedger.Judgement.Coinbase
import EntryLedger.Judgement.Guard
import EntryLedger.Transaction.Sealed

/-!
# Judging transactions

A transaction is judged in a fixed order and the first failure decides: the
version, the size, the time range, coinbases, the presence of results, every
entry in turn, the fee, the templates if policy wants them, every program, and
the gas.
-/

namespace EntryLedger

/-- Check what the header of a transaction declares. -/
def Header.check (header : Header) (params : Params) (blockTime : UInt64) :
    Except Cause Unit :=
  if header.version = 0 ∨ params.maxTransactionVersion < header.version then
    .error (.transactionVersion header.version params.maxTransactionVersion)
  else if header.size = 0 ∨ params.maxTransactionSize < header.size then
    .error (.wrongTransactionSize header.size params.maxTransactionSize)
  else if header.timeRange.isInverted ∨ header.timeRange.contains blockTime = false then
    .error (.badTimeRange blockTime header.timeRange)
  else .ok ()

/-- A failure that is about no entry. -/
def Rejection.general (cause : Cause) : Rejection where
  cause := cause
  entry := none

/-- Check that the muxes leave exactly the fee.  The last mux is blamed. -/
def Tally.checkFee (tally : Tally) (native : AssetId) (fee : UInt64) :
    Except Refusal Unit :=
  let blame := fun cause =>
    Refusal.rejected { cause := cause, entry := tally.lastMux }
  if Number.fits fee.toNat = false then .error (blame .overflow)
  else if tally.residual = fee.toNat then .ok ()
  else
    let shortfall := tally.residual - fee.toNat
    if Number.fits shortfall then .error (blame (.unbalanced native shortfall))
    else .error (.breached .residualOverflow)

/-- Whether native value of an entry is guarded by something else than a
template. -/
def Entry.isNonStandard (native : AssetId) : Entry → Bool
  | .spend body =>
      body.destination.any fun link =>
        link.value.asset = native ∧ Template.isTemplate body.program.code = false
  | .output body =>
      body.source.value.asset = native ∧ Template.isTemplate body.program.code = false
  | .mux _ | .issuance _ | .coinbase _ | .retirement _ => false

/-- Check that templates guard all native value. -/
def checkTemplates (native : AssetId) :
    List (Nat × EntryId × Entry) → Except Rejection Unit
  | [] => .ok ()
  | (_, id, entry) :: nodes =>
      if entry.isNonStandard native then
        .error { cause := .notStandard, entry := some id }
      else checkTemplates native nodes

/-- The outcome of a judgement and what the programs did. -/
structure Judgement where
  outcome : Except Breach Verdict
  journal : Journal

/-- The judgement that ends with a refusal. -/
def Judgement.refuse (refusal : Refusal) (journal : Journal) : Judgement where
  outcome :=
    match refusal with
    | .rejected rejection => .ok (.invalid rejection)
    | .breached breach => .error breach
  journal := journal

namespace Graph

/-- Everything that is checked before the walk; on success the meter of the
transaction. -/
def openMeter (graph : Graph) (setting : Setting) : Except Rejection Meter := do
  let header := graph.header
  (header.check setting.params setting.blockTime).mapError Rejection.general
  checkCoinbases setting graph.inputCount graph.nodes
  if graph.results.isEmpty then throw (Rejection.general .emptyResults)
  (Meter.ofFee header.fee header.size setting.params setting.expired).mapError
    fun error => Rejection.general (.ofGasError error)

/-- Everything that is checked before the programs run. -/
def vet (graph : Graph) (view : LedgerView) (setting : Setting) :
    Except Refusal (Meter × Tally) := do
  let native := setting.params.nativeAsset
  let meter ← (graph.openMeter setting).mapError .rejected
  let (walked, tally) ← (graph.walk view native graph.nodes meter .start).mapError .rejected
  tally.checkFee native graph.header.fee
  if setting.requiresTemplates then
    (checkTemplates native graph.nodes).mapError .rejected
  return (walked, tally)

def judge (graph : Graph) (view : LedgerView) (setting : Setting) : Judgement :=
  match graph.vet view setting with
  | .error refusal => .refuse refusal []
  | .ok (meter, tally) =>
      match (graph.runGuards setting tally graph.nodes).run (.ofMeter meter true) with
      | .error refusal books => .refuse refusal books.journal
      | .ok () books =>
          match books.meter.settle graph.hasCoinbase with
          | .error error =>
              .refuse (.rejected (.general (.ofGasError error))) books.journal
          | .ok gasUsed =>
              { outcome := .ok (.valid gasUsed books.meter.entriesVisited)
                journal := books.journal }

end Graph

def Sealed.judge (tx : Sealed) (view : LedgerView) (setting : Setting) : Judgement :=
  tx.graph.judge view setting

/-- Judge an encoded transaction. -/
def judgeBytes (bytes : Bytes) (view : LedgerView) (setting : Setting) : Judgement :=
  match Sealed.decode bytes setting.params.maxTransactionSize with
  | .error error => .refuse (.rejected (.general (.ofGraphError error))) []
  | .ok tx => tx.judge view setting

end EntryLedger
