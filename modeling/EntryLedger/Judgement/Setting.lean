import EntryLedger.Machine.Context
import EntryLedger.Params

/-!
# The setting of a judgement

A transaction is judged at a place in a block, under the parameters of the
protocol and the policy of the node.
-/

namespace EntryLedger

/-- What a judgement depends on besides the transaction and the ledger. -/
structure Setting where
  params : Params
  blockHeight : UInt64
  blockTime : UInt64
  /-- The place of the transaction in its block, if it is known. -/
  position : Option UInt64
  /-- Whether native value may only be guarded by witness templates. -/
  requiresTemplates : Bool
  /-- Whether the deadline of the judgement has passed. -/
  expired : Bool
  verifySignature : SignatureVerifier

end EntryLedger
