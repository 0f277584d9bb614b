import EntryLedger.Digest.Map
import EntryLedger.Asset

/-!
# Ledgers

A ledger records the outputs that can still be spent and the definitions of
assets.  Validation sees a ledger only through a view, which answers for one
output or one asset at a time.
-/

namespace EntryLedger

/-- What validation can ask of a ledger. -/
structure LedgerView where
  /-- The value of an output that can be spent. -/
  output? : Digest → Option Value
  /-- The recorded definition of an asset. -/
  definition? : AssetId → Option Definition

/-- The unspent outputs and the definitions of assets. -/
structure Ledger where
  outputs : DigestMap Value
  definitions : DigestMap Definition

namespace Ledger

def empty : Ledger where
  outputs := .empty
  definitions := .empty

/-- Record an output, in place of any earlier one of the same identity. -/
def insertOutput (ledger : Ledger) (id : Digest) (value : Value) : Ledger :=
  { ledger with outputs := ledger.outputs.insert id value }

def eraseOutput (ledger : Ledger) (id : Digest) : Ledger :=
  { ledger with outputs := ledger.outputs.erase id }

/-- Record a definition under the asset that it defines. -/
def insertDefinition (ledger : Ledger) (definition : Definition) : Ledger :=
  { ledger with
    definitions := ledger.definitions.insert definition.assetId definition }

def output? (ledger : Ledger) (id : Digest) : Option Value :=
  ledger.outputs.get? id

def definition? (ledger : Ledger) (asset : AssetId) : Option Definition :=
  ledger.definitions.get? asset

def outputCount (ledger : Ledger) : Nat :=
  ledger.outputs.size

/-- The ledger as validation sees it. -/
def view (ledger : Ledger) : LedgerView where
  output? := ledger.output?
  definition? := ledger.definition?

end Ledger

end EntryLedger
