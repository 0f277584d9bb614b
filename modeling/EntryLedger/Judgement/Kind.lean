import EntryLedger.Machine.Fault

/-!
# Kinds of rejections

Every rejection is of one kind out of a closed list.  The code of a kind is
part of what nodes and clients agree on and never changes.  Kinds are grouped
into categories by whom they concern.
-/

namespace EntryLedger

/-- Whom a rejection concerns. -/
inductive RejectionCategory where
  | internal | cancel | external | structural | temporal | policy | coinbase
  | balance | gas | machine
  deriving DecidableEq

def RejectionCategory.name : RejectionCategory → String
  | .internal => "internal"
  | .cancel => "cancel"
  | .external => "external"
  | .structural => "structural"
  | .temporal => "temporal"
  | .policy => "policy"
  | .coinbase => "coinbase"
  | .balance => "balance"
  | .gas => "gas"
  | .machine => "vm"

/-- The kinds of rejections. -/
inductive RejectionKind where
  | internal | deadlineExceeded | orphanInput | transactionVersion
  | wrongTransactionSize | badTimeRange | notStandard | wrongCoinbase
  | wrongCoinbaseAsset | coinbaseOversize | emptyResults | mismatchedAsset
  | mismatchedPosition | mismatchedReference | mismatchedValue | missingField
  | noSource | overflow | positionOutOfRange | unbalanced | overCredit | miscalculated
  | malformedReference | malformedEncoding
  | altStackUnderflow | badValue | wrongContext | dataStackUnderflow
  | disallowedOpcode | divideByZero | falseResult | longProgram | rangeError
  | returnExecuted | runLimitExceeded | shortProgram | unrecognizedToken
  | unexpectedError | unsupportedVersion | verifyFailed
  deriving DecidableEq

namespace RejectionKind

/-- All kinds in the order of their codes, the general ones first. -/
def all : List RejectionKind :=
  [.internal, .deadlineExceeded, .orphanInput, .transactionVersion,
    .wrongTransactionSize, .badTimeRange, .notStandard, .wrongCoinbase,
    .wrongCoinbaseAsset, .coinbaseOversize, .emptyResults, .mismatchedAsset,
    .mismatchedPosition, .mismatchedReference, .mismatchedValue, .missingField,
    .noSource, .overflow, .positionOutOfRange, .unbalanced, .overCredit, .miscalculated,
    .malformedReference, .malformedEncoding, .altStackUnderflow, .badValue,
    .wrongContext, .dataStackUnderflow, .disallowedOpcode, .divideByZero,
    .falseResult, .longProgram, .rangeError, .returnExecuted, .runLimitExceeded,
    .shortProgram, .unrecognizedToken, .unexpectedError, .unsupportedVersion,
    .verifyFailed]

def name : RejectionKind → String
  | .internal => "Internal"
  | .deadlineExceeded => "DeadlineExceeded"
  | .orphanInput => "OrphanInput"
  | .transactionVersion => "TxVersion"
  | .wrongTransactionSize => "WrongTransactionSize"
  | .badTimeRange => "BadTimeRange"
  | .notStandard => "NotStandardTx"
  | .wrongCoinbase => "WrongCoinbaseTransaction"
  | .wrongCoinbaseAsset => "WrongCoinbaseAsset"
  | .coinbaseOversize => "CoinbaseArbitraryOversize"
  | .emptyResults => "EmptyResults"
  | .mismatchedAsset => "MismatchedAssetId"
  | .mismatchedPosition => "MismatchedPosition"
  | .mismatchedReference => "MismatchedReference"
  | .mismatchedValue => "MismatchedValue"
  | .missingField => "MissingField"
  | .noSource => "NoSource"
  | .overflow => "Overflow"
  | .positionOutOfRange => "Position"
  | .unbalanced => "Unbalanced"
  | .overCredit => "OverGasCredit"
  | .miscalculated => "GasCalculate"
  | .malformedReference => "MalformedReference"
  | .malformedEncoding => "MalformedEncoding"
  | .altStackUnderflow => "AltStackUnderflow"
  | .badValue => "BadValue"
  | .wrongContext => "WrongContext"
  | .dataStackUnderflow => "DataStackUnderflow"
  | .disallowedOpcode => "DisallowedOpcode"
  | .divideByZero => "DivideByZero"
  | .falseResult => "FalseResult"
  | .longProgram => "LongProgram"
  | .rangeError => "RangeError"
  | .returnExecuted => "ReturnExecuted"
  | .runLimitExceeded => "RunLimitExceeded"
  | .shortProgram => "ShortProgram"
  | .unrecognizedToken => "UnrecognizedToken"
  | .unexpectedError => "UnexpectedError"
  | .unsupportedVersion => "UnsupportedVersion"
  | .verifyFailed => "VerifyFailed"

/-- The kind with a published name. -/
def ofName? (name : String) : Option RejectionKind :=
  all.find? fun kind => kind.name == name

/-- The stable code of a kind. -/
def code : RejectionKind → Nat
  | .internal => 0
  | .deadlineExceeded => 1
  | .orphanInput => 712
  | .transactionVersion => 730
  | .wrongTransactionSize => 731
  | .badTimeRange => 732
  | .notStandard => 733
  | .wrongCoinbase => 734
  | .wrongCoinbaseAsset => 735
  | .coinbaseOversize => 736
  | .emptyResults => 737
  | .mismatchedAsset => 738
  | .mismatchedPosition => 739
  | .mismatchedReference => 740
  | .mismatchedValue => 741
  | .missingField => 742
  | .noSource => 743
  | .overflow => 744
  | .positionOutOfRange => 745
  | .unbalanced => 746
  | .overCredit => 747
  | .miscalculated => 748
  | .malformedReference => 749
  | .malformedEncoding => 750
  | .altStackUnderflow => 760
  | .badValue => 761
  | .wrongContext => 762
  | .dataStackUnderflow => 763
  | .disallowedOpcode => 764
  | .divideByZero => 765
  | .falseResult => 766
  | .longProgram => 767
  | .rangeError => 768
  | .returnExecuted => 769
  | .runLimitExceeded => 770
  | .shortProgram => 771
  | .unrecognizedToken => 772
  | .unexpectedError => 773
  | .unsupportedVersion => 774
  | .verifyFailed => 775

def category : RejectionKind → RejectionCategory
  | .internal => .internal
  | .deadlineExceeded => .cancel
  | .orphanInput => .external
  | .transactionVersion | .wrongTransactionSize | .malformedReference
  | .malformedEncoding => .structural
  | .badTimeRange => .temporal
  | .notStandard => .policy
  | .wrongCoinbase | .wrongCoinbaseAsset | .coinbaseOversize => .coinbase
  | .emptyResults | .mismatchedAsset | .mismatchedPosition | .mismatchedReference
  | .mismatchedValue | .missingField | .noSource | .overflow | .positionOutOfRange
  | .unbalanced => .balance
  | .overCredit | .miscalculated => .gas
  | .altStackUnderflow | .badValue | .wrongContext | .dataStackUnderflow
  | .disallowedOpcode | .divideByZero | .falseResult | .longProgram | .rangeError
  | .returnExecuted | .runLimitExceeded | .shortProgram | .unrecognizedToken
  | .unexpectedError | .unsupportedVersion | .verifyFailed => .machine

/-- Whether the same transaction may be accepted later, against another
ledger or with more time. -/
def isTemporary (kind : RejectionKind) : Bool :=
  kind = .internal ∨ kind = .deadlineExceeded ∨ kind = .orphanInput

/-- Whether a rejection of the kind shows a defect of the node rather than of
the transaction. -/
def isInternal (kind : RejectionKind) : Bool :=
  kind = .internal

/-- The kind of a fault of a program. -/
def ofFault : Fault → RejectionKind
  | .altStackUnderflow => .altStackUnderflow
  | .badValue => .badValue
  | .wrongContext => .wrongContext
  | .dataStackUnderflow => .dataStackUnderflow
  | .disallowedOpcode _ => .disallowedOpcode
  | .divideByZero => .divideByZero
  | .falseResult => .falseResult
  | .longProgram => .longProgram
  | .rangeError => .rangeError
  | .returnExecuted => .returnExecuted
  | .runLimitExceeded => .runLimitExceeded
  | .shortProgram => .shortProgram
  | .unrecognizedToken _ => .unrecognizedToken
  | .unexpectedError _ => .unexpectedError
  | .unsupportedVersion _ => .unsupportedVersion
  | .verifyFailed => .verifyFailed
  | .deadlineExceeded => .deadlineExceeded

end RejectionKind

end EntryLedger
