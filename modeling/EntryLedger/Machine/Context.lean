import EntryLedger.Asset
import EntryLedger.Machine.Fault

/-!
# What a program can observe

A program runs on behalf of one entry.  It sees the block, the identities of
the transaction and the entry, and whatever value and position the entry has.
Signatures and the outputs of the transaction are judged by functions that the
context supplies.
-/

namespace EntryLedger

/-- The output that a program asks for. -/
structure OutputQuery where
  index : UInt64
  amount : UInt64
  asset : AssetId
  version : UInt64
  code : Bytes
  deriving DecidableEq

/-- Judges a signature over a message under a public key. -/
abbrev SignatureVerifier := (key message signature : Bytes) → Bool

/-- Answers whether an output is as a program expects. -/
abbrev OutputChecker := OutputQuery → Except Fault Bool

/-- What one run of a program can observe. -/
structure Context where
  maxVersion : UInt64
  blockHeight : UInt64
  blockTime : UInt64
  transactionId : Digest
  entryId : Digest
  /-- The message that signatures of the entry sign. -/
  signatureHash : Digest
  /-- The code of the entry as it stands there. -/
  program : Bytes
  asset : Option AssetId
  amount : Option UInt64
  /-- The slot of the mux that the value of the entry goes to. -/
  position : Option UInt64
  spentOutput : Option Digest
  checkOutput : Option OutputChecker
  verifySignature : SignatureVerifier

end EntryLedger
