import EntryLedger.Judgement.Flow
import EntryLedger.Judgement.Verdict
import EntryLedger.Ledger

/-!
# The walk over the entries

The walk visits every entry in the order of the graph, pays for the visit, and
checks what the entry says against its neighbours and the ledger.  What it
learns on the way is kept in a tally.
-/

namespace EntryLedger

/-- What the walk has learned so far. -/
structure Tally where
  /-- What the muxes leave of the native asset. -/
  residual : Int
  lastMux : Option EntryId
  /-- The outputs that the transaction spends. -/
  spent : List Digest
  /-- The definitions of the issued assets by the place of the issuance. -/
  definitions : List (Nat × Definition)

namespace Tally

def start : Tally where
  residual := 0
  lastMux := none
  spent := []
  definitions := []

end Tally

/-- The destination of an entry that has to have one. -/
def requireDestination (destination : Option Link) : Except Cause Link :=
  match destination with
  | some link => .ok link
  | none => .error (.missingField .destination)

/-- Check a spend, which has to use an output that the ledger records and no
other spend uses. -/
def Graph.checkSpend (graph : Graph) (view : LedgerView) (tally : Tally)
    (index : Nat) (spend : Spend) : Except Cause Tally := do
  let link ← requireDestination spend.destination
  if spend.spentOutput ∈ tally.spent then throw .mismatchedReference
  match view.output? spend.spentOutput with
  | none => throw (.orphanInput spend.spentOutput)
  | some recorded =>
      checkValue recorded link.value
      graph.crossDestination index 0 link
      return { tally with spent := spend.spentOutput :: tally.spent }

/-- Check an issuance, whose definition has to define the issued asset. -/
def Graph.checkIssuance (graph : Graph) (view : LedgerView) (tally : Tally)
    (index : Nat) (issuance : Issuance) : Except Cause Tally := do
  let link ← requireDestination issuance.destination
  match issuance.definition.or (view.definition? issuance.value.asset) with
  | none => throw (.missingField .definition)
  | some definition =>
      let defined := definition.assetId
      if defined ≠ issuance.value.asset then
        throw (.mismatchedAsset issuance.value.asset defined)
      checkValue issuance.value link.value
      graph.crossDestination index 0 link
      return { tally with definitions := (index, definition) :: tally.definitions }

def Graph.examine (graph : Graph) (view : LedgerView) (native : AssetId)
    (tally : Tally) (index : Nat) : Entry → Except Cause Tally
  | .output output => do
      graph.crossSource index 0 output.source
      return tally
  | .retirement retirement => do
      graph.crossSource index 0 retirement.source
      return tally
  | .mux mux => do
      let residual ← graph.balanceMux native index mux tally.residual
      return { tally with residual := residual, lastMux := graph.idAt? index }
  | .spend spend => graph.checkSpend view tally index spend
  | .issuance issuance => graph.checkIssuance view tally index issuance
  | .coinbase coinbase => do
      let link ← requireDestination coinbase.destination
      graph.crossDestination index 0 link
      return tally

/-- Visit the nodes of a graph one after the other. -/
def Graph.walk (graph : Graph) (view : LedgerView) (native : AssetId) :
    List (Nat × EntryId × Entry) → Meter → Tally → Except Rejection (Meter × Tally)
  | [], meter, tally => .ok (meter, tally)
  | (index, id, entry) :: nodes, meter, tally =>
      match Meter.visitEntry.run meter with
      | .error error _ => .error { cause := .ofGasError error, entry := some id }
      | .ok () visited =>
          match graph.examine view native tally index entry with
          | .error cause => .error { cause := cause, entry := some id }
          | .ok next => graph.walk view native nodes visited next

end EntryLedger
