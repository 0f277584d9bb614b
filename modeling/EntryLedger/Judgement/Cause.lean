import EntryLedger.Gas
import EntryLedger.Graph
import EntryLedger.Judgement.Kind

/-!
# Causes of rejections

A cause says what is wrong with a transaction, together with what was
expected and what was found.  Each cause has a text and belongs to a kind.
-/

namespace EntryLedger

/-- What a graph that was built should never lack. -/
inductive Defect where
  | danglingReference (index : Nat)
  | unresolvedDefinition
  | missingSignatureHash
  deriving DecidableEq

def Defect.message : Defect → String
  | .danglingReference index => s!"dangling reference to #{index}"
  | .unresolvedDefinition => "issuance definition not resolved"
  | .missingSignatureHash => "no sighash for entry"

/-- The rules for the place of a coinbase. -/
inductive CoinbaseRule where
  | onlyInput
  | firstInput
  | firstTransaction
  deriving DecidableEq

def CoinbaseRule.message : CoinbaseRule → String
  | .onlyInput => "coinbase must be the only input"
  | .firstInput => "coinbase must be the first input"
  | .firstTransaction => "coinbase must be the first transaction of its block"

/-- The parts that an entry may lack. -/
inductive MissingPart where
  | destination
  | definition
  deriving DecidableEq

def MissingPart.message : MissingPart → String
  | .destination => "destination"
  | .definition => "asset definition"

/-- Why a transaction is rejected. -/
inductive Cause where
  | internal (defect : Defect)
  | deadlineExceeded
  | orphanInput (output : Digest)
  | transactionVersion (version highest : UInt64)
  | wrongTransactionSize (size limit : UInt64)
  | badTimeRange (time : UInt64) (range : TimeRange)
  | notStandard
  | wrongCoinbase (rule : CoinbaseRule)
  | wrongCoinbaseAsset (asset : AssetId)
  | coinbaseOversize (size limit : Nat)
  | emptyResults
  | mismatchedAsset (expected found : AssetId)
  | mismatchedPosition (expected found : Nat)
  | mismatchedReference
  | mismatchedValue (expected found : UInt64)
  | missingField (part : MissingPart)
  | noSource (asset : AssetId)
  | overflow
  | positionOutOfRange (position : UInt64)
  | unbalanced (asset : AssetId) (residual : Int)
  | overCredit (used budget : Nat)
  | miscalculated
  | malformedReference (owner : Option Nat) (target : Nat) (flaw : ReferenceFlaw)
  | malformedEncoding (flaw : EncodingFlaw)
  | program (fault : Fault)
  deriving DecidableEq

namespace Cause

/-- The cause of a rejection for want of a graph. -/
def ofGraphError : GraphError → Cause
  | .malformedReference owner target flaw => .malformedReference owner target flaw
  | .malformedPosition _ _ position => .positionOutOfRange position
  | .missingDestination _ => .missingField .destination
  | .wrongSize size limit => .wrongTransactionSize size limit
  | .malformedEncoding flaw => .malformedEncoding flaw

/-- The cause of a rejection by the meter. -/
def ofGasError : GasError → Cause
  | .runLimitExceeded _ _ => .program .runLimitExceeded
  | .miscalculated => .miscalculated
  | .overCredit used budget => .overCredit used budget
  | .deadlineExceeded => .deadlineExceeded

/-- The cause of a rejection by a program.  A deadline that passes is no fault
of the program. -/
def ofFault : Fault → Cause
  | .deadlineExceeded => .deadlineExceeded
  | fault => .program fault

def kind : Cause → RejectionKind
  | .internal _ => .internal
  | .deadlineExceeded => .deadlineExceeded
  | .orphanInput _ => .orphanInput
  | .transactionVersion _ _ => .transactionVersion
  | .wrongTransactionSize _ _ => .wrongTransactionSize
  | .badTimeRange _ _ => .badTimeRange
  | .notStandard => .notStandard
  | .wrongCoinbase _ => .wrongCoinbase
  | .wrongCoinbaseAsset _ => .wrongCoinbaseAsset
  | .coinbaseOversize _ _ => .coinbaseOversize
  | .emptyResults => .emptyResults
  | .mismatchedAsset _ _ => .mismatchedAsset
  | .mismatchedPosition _ _ => .mismatchedPosition
  | .mismatchedReference => .mismatchedReference
  | .mismatchedValue _ _ => .mismatchedValue
  | .missingField _ => .missingField
  | .noSource _ => .noSource
  | .overflow => .overflow
  | .positionOutOfRange _ => .positionOutOfRange
  | .unbalanced _ _ => .unbalanced
  | .overCredit _ _ => .overCredit
  | .miscalculated => .miscalculated
  | .malformedReference _ _ _ => .malformedReference
  | .malformedEncoding _ => .malformedEncoding
  | .program fault => .ofFault fault

def message : Cause → String
  | .internal defect => "internal error: " ++ defect.message
  | .deadlineExceeded => "validation deadline exceeded"
  | .orphanInput output => "spent output " ++ output.text ++ " not found"
  | .transactionVersion version highest =>
      s!"unsupported transaction version {version.toNat} (max {highest.toNat})"
  | .wrongTransactionSize size limit =>
      s!"transaction size {size.toNat} outside 1..={limit.toNat}"
  | .badTimeRange time range =>
      s!"block time {time.toNat} outside transaction range " ++
        s!"[{range.earliest.toNat}, {range.latest.toNat}]"
  | .notStandard => "non-standard program on a native asset entry"
  | .wrongCoinbase rule => "wrong coinbase transaction: " ++ rule.message
  | .wrongCoinbaseAsset asset =>
      "coinbase pays asset " ++ asset.text ++ " instead of the native asset"
  | .coinbaseOversize size limit =>
      s!"coinbase arbitrary data is {size} bytes (limit {limit})"
  | .emptyResults => "transaction has no results"
  | .mismatchedAsset expected found =>
      "asset mismatch: expected " ++ expected.text ++ ", found " ++ found.text
  | .mismatchedPosition expected found =>
      s!"position mismatch: expected {expected}, found {found}"
  | .mismatchedReference => "reference does not point back to its owner"
  | .mismatchedValue expected found =>
      s!"value mismatch: expected {expected.toNat}, found {found.toNat}"
  | .missingField part => "missing field: " ++ part.message
  | .noSource asset => "destination asset " ++ asset.text ++ " has no source"
  | .overflow => "amount overflow"
  | .positionOutOfRange position => s!"position {position.toNat} out of range"
  | .unbalanced asset residual =>
      "asset " ++ asset.text ++ s!" is unbalanced by {residual}"
  | .overCredit used budget =>
      s!"gas {used} exceeds the credit bought by the fee ({budget})"
  | .miscalculated => "gas calculation error"
  | .malformedReference owner target flaw =>
      "malformed reference: " ++ (GraphError.malformedReference owner target flaw).message
  | .malformedEncoding flaw => "malformed encoding: " ++ flaw.message
  | .program fault => "script failed: " ++ fault.message

end Cause

end EntryLedger
