import EntryLedger.Bytes.Hex

/-!
# Why a program stops short

A fault is a failure that a program can cause.  A breach is a failure of the
library itself: an access that no check covers, or arithmetic that leaves its
word.  Breaches are kept apart from faults so that their absence can be
stated.
-/

namespace EntryLedger

/-- The failures that a program can cause. -/
inductive Fault where
  | altStackUnderflow
  | badValue
  | wrongContext
  | dataStackUnderflow
  | disallowedOpcode (opcode : UInt8)
  | divideByZero
  | falseResult
  | longProgram
  | rangeError
  | returnExecuted
  | runLimitExceeded
  | shortProgram
  | unrecognizedToken (opcode : UInt8)
  | unexpectedError (message : String)
  | unsupportedVersion (version : UInt64)
  | verifyFailed
  | deadlineExceeded
  deriving DecidableEq

/-- The failures of the library itself. -/
inductive Breach where
  /-- An operation found fewer operands than it was promised. -/
  | missingOperand
  /-- A step went by without using gas. -/
  | stalled
  /-- The shortfall of an unbalanced transaction does not fit its word. -/
  | residualOverflow
  deriving DecidableEq

/-- Everything that can end a run before the program halts. -/
inductive Stop where
  | fault (cause : Fault)
  | breach (cause : Breach)
  deriving DecidableEq

/-- The two upper-case digits of a byte. -/
def Hex.upperByte (byte : UInt8) : String :=
  String.ofList ((Hex.ofByte byte).map Char.toUpper)

def Fault.message : Fault → String
  | .altStackUnderflow => "Alt stack underflow"
  | .badValue => "Bad value"
  | .wrongContext => "Opcode not valid in this context"
  | .dataStackUnderflow => "Data stack underflow"
  | .disallowedOpcode opcode => "Disallowed opcode: 0x" ++ Hex.upperByte opcode
  | .divideByZero => "Division by zero"
  | .falseResult => "Program ended with a false result"
  | .longProgram => "Program too long"
  | .rangeError => "Range error"
  | .returnExecuted => "FAIL executed"
  | .runLimitExceeded => "Run limit exceeded"
  | .shortProgram => "Unexpected end of program"
  | .unrecognizedToken opcode => "Unrecognized opcode: 0x" ++ Hex.upperByte opcode
  | .unexpectedError message => "Unexpected error: " ++ message
  | .unsupportedVersion version => s!"Unsupported VM version: {version.toNat}"
  | .verifyFailed => "Verification failed"
  | .deadlineExceeded => "Validation deadline exceeded"

end EntryLedger
