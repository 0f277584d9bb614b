import EntryLedger.Transaction.Wire

/-!
# Sealed transactions

A sealed transaction is one whose size is measured and whose graph is built.
A transaction that is decoded keeps the length of the bytes that it came
from, which may be longer than its shortest encoding.
-/

namespace EntryLedger

/-- A transaction together with its encoded size and its graph. -/
structure Sealed where
  transaction : Transaction
  size : UInt64
  graph : Graph

namespace Sealed

/-- Measure a transaction and build its graph. -/
def ofTransaction (transaction : Transaction) : Except GraphError Sealed := do
  let size := UInt64.ofNat transaction.encode.length
  let graph ← transaction.graph size
  return { transaction := transaction, size := size, graph := graph }

/-- Decode bytes whose number is neither zero nor above a limit. -/
def decode (bytes : Bytes) (limit : UInt64) : Except GraphError Sealed := do
  let size := UInt64.ofNat bytes.length
  if size = 0 ∨ limit < size then throw (.wrongSize size limit)
  match Transaction.decode bytes with
  | .error flaw => throw (.malformedEncoding flaw)
  | .ok transaction =>
      let graph ← transaction.graph size
      return { transaction := transaction, size := size, graph := graph }

def id (tx : Sealed) : Digest :=
  tx.graph.id

/-- The message that the arguments of an input sign. -/
def signatureHash? (tx : Sealed) (index : Nat) : Option Digest :=
  if index < tx.transaction.inputs.length then tx.graph.signatureHash? index else none

def muxId? (tx : Sealed) : Option Digest :=
  tx.graph.idAt? tx.transaction.inputs.length

/-- The identity of an output, as a later spend computes it. -/
def outputId? (tx : Sealed) (index : Nat) : Option Digest :=
  tx.graph.results[index]?.bind tx.graph.idAt?

/-- A spend of an output, without arguments. -/
def spendOutput? (tx : Sealed) (index : Nat) : Option SpendInput := do
  let payment ← tx.transaction.outputs[index]?
  let sourceId ← tx.muxId?
  return { sourceId := sourceId, sourcePosition := UInt64.ofNat index
           value := payment.value, program := payment.program, arguments := [] }

end Sealed

end EntryLedger
