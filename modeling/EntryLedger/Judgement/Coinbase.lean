import EntryLedger.Judgement.Setting
import EntryLedger.Judgement.Verdict

/-!
# Rules for coinbases

A coinbase is the only input of the first transaction of its block, carries
little data and pays the native asset.
-/

namespace EntryLedger

/-- Whether an entry brings value in. -/
def Entry.isInput : Entry → Bool
  | .spend _ | .issuance _ | .coinbase _ => true
  | .mux _ | .output _ | .retirement _ => false

def Graph.inputCount (graph : Graph) : Nat :=
  graph.entries.countP Entry.isInput

/-- Check one coinbase among a number of inputs. -/
def Coinbase.check (setting : Setting) (inputCount : Nat) (coinbase : Coinbase) :
    Except Cause Unit :=
  let limit := setting.params.coinbaseDataLimit.toNat
  if inputCount ≠ 1 then .error (.wrongCoinbase .onlyInput)
  else if coinbase.ordinal ≠ 0 then .error (.wrongCoinbase .firstInput)
  else if setting.position.any (· ≠ 0) then .error (.wrongCoinbase .firstTransaction)
  else if limit < coinbase.data.length then
    .error (.coinbaseOversize coinbase.data.length limit)
  else
    match coinbase.destination with
    | none => .error (.missingField .destination)
    | some link =>
        if link.value.asset ≠ setting.params.nativeAsset then
          .error (.wrongCoinbaseAsset link.value.asset)
        else .ok ()

/-- Check the coinbases among the nodes of a graph. -/
def checkCoinbases (setting : Setting) (inputCount : Nat) :
    List (Nat × EntryId × Entry) → Except Rejection Unit
  | [] => .ok ()
  | (_, id, .coinbase coinbase) :: nodes =>
      match coinbase.check setting inputCount with
      | .error cause => .error { cause := cause, entry := some id }
      | .ok () => checkCoinbases setting inputCount nodes
  | _ :: nodes => checkCoinbases setting inputCount nodes

end EntryLedger
