import EntryLedger.Asset

/-!
# Protocol parameters

The constants that every node has to agree on.
-/

namespace EntryLedger

/-- The limits and rates that govern validation. -/
structure Params where
  /-- The highest transaction version that is accepted. -/
  maxTransactionVersion : UInt64
  /-- The largest encoded transaction, in bytes. -/
  maxTransactionSize : UInt64
  /-- The largest free data of a coinbase, in bytes. -/
  coinbaseDataLimit : UInt64
  /-- The native amount that buys one unit of gas. -/
  gasPrice : UInt64
  /-- The gas due for each encoded byte. -/
  storageRate : UInt64
  /-- The most gas that any transaction may use. -/
  maxGas : UInt64
  /-- The gas that programs may use before the fee is settled. -/
  defaultCredit : UInt64
  /-- The gas due for each entry of the graph. -/
  visitCost : UInt64
  /-- The highest machine version that is accepted. -/
  maxMachineVersion : UInt64
  /-- The asset of fees and block rewards. -/
  nativeAsset : AssetId

def Params.main : Params where
  maxTransactionVersion := 1
  maxTransactionSize := 1048576
  coinbaseDataLimit := 128
  gasPrice := 200
  storageRate := 1
  maxGas := 200000
  defaultCredit := 30000
  visitCost := 8
  maxMachineVersion := 2
  nativeAsset := AssetId.native

end EntryLedger
