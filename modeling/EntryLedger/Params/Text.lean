import EntryLedger.Params
import EntryLedger.Text.Json.Record

/-!
# Parameters as text

Parameters are written as a record.  Missing ones keep the value that they
have on the main network.
-/

namespace EntryLedger.Params

/-- The names of the parameters, in their order. -/
def names : List String :=
  ["max_tx_version", "max_tx_size", "coinbase_arbitrary_size_limit", "vm_gas_rate",
    "storage_gas_rate", "max_gas_amount", "default_gas_credit", "entry_visit_gas",
    "max_vm_version", "native_asset"]

def ofJson? (value : JsonValue) : Option Params := do
  match ← value.record? names with
  | [version, size, dataLimit, price, storage, gas, credit, visit, machine, native] =>
      let word := JsonValue.orElse JsonValue.word?
      return {
        maxTransactionVersion := ← word main.maxTransactionVersion version
        maxTransactionSize := ← word main.maxTransactionSize size
        coinbaseDataLimit := ← word main.coinbaseDataLimit dataLimit
        gasPrice := ← word main.gasPrice price
        storageRate := ← word main.storageRate storage
        maxGas := ← word main.maxGas gas
        defaultCredit := ← word main.defaultCredit credit
        visitCost := ← word main.visitCost visit
        maxMachineVersion := ← word main.maxMachineVersion machine
        nativeAsset := ← JsonValue.orElse (fun asset => asset.bytes?.bind Digest.ofBytes?)
          main.nativeAsset native }
  | _ => none

def ofText? (text : String) : Option Params :=
  (JsonValue.ofText? text).bind ofJson?

end EntryLedger.Params
