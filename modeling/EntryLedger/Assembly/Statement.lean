import EntryLedger.Assembly.Token
import EntryLedger.Machine.Opcode

/-!
# Statements of program text

Every token is a statement of its own: a label, an operation, a jump, or a
number or byte string that is pushed.
-/

namespace EntryLedger

/-- A part of a program as its author wrote it. -/
inductive Statement where
  | label (name : String)
  | operation (opcode : Opcode)
  | number (number : Int)
  | data (bytes : Bytes)
  | jump (conditional : Bool) (target : JumpTarget)
  deriving DecidableEq

/-- A statement and the number of the line on which it stands. -/
structure LocatedStatement where
  line : Nat
  statement : Statement
  deriving DecidableEq

/-- Why program text is no sequence of statements. -/
inductive SourceError where
  | invalidToken (text : String) (line : Nat)
  | unknownOpcode (name : String) (line : Nat)
  | missingTarget (name : String) (line : Nat)
  deriving DecidableEq

def SourceError.message : SourceError → String
  | .invalidToken text line => s!"invalid token at line {line}: '" ++ text ++ "'"
  | .unknownOpcode name line => s!"unknown opcode at line {line}: " ++ name
  | .missingTarget name line =>
      s!"jump opcode at line {line} needs a target, write " ++ name ++ ":$label"

namespace Statement

/-- The opcode of a jump. -/
def jumpOpcode (conditional : Bool) : Opcode :=
  if conditional then 0x64 else 0x63

/-- The statement of a word, which has to name an operation that needs no
target. -/
def ofWord (line : Nat) (name : String) : Except SourceError Statement :=
  match Opcode.ofName? name with
  | none => .error (.unknownOpcode name line)
  | some opcode =>
      if opcode = jumpOpcode false ∨ opcode = jumpOpcode true then
        .error (.missingTarget name line)
      else .ok (.operation opcode)

def ofToken (line : Nat) : Token → Except SourceError Statement
  | .jump conditional target => .ok (.jump conditional target)
  | .label name => .ok (.label name)
  | .number value => .ok (.number value)
  | .data bytes | .text bytes => .ok (.data bytes)
  | .word name => ofWord line name

end Statement

namespace LocatedStatement

/-- The statement of a lexeme. -/
def ofLexeme (located : LocatedLexeme) : Except SourceError LocatedStatement :=
  match located.lexeme.token with
  | none => .error (.invalidToken (String.ofList located.lexeme.text) located.line)
  | some token =>
      (Statement.ofToken located.line token).map fun statement =>
        { line := located.line, statement := statement }

def ofLexemes : List LocatedLexeme → Except SourceError (List LocatedStatement)
  | [] => .ok []
  | located :: rest => do
      let first ← ofLexeme located
      let others ← ofLexemes rest
      return first :: others

def ofSource (source : String) : Except SourceError (List LocatedStatement) :=
  ofLexemes (LocatedLexeme.ofSource source)

end LocatedStatement

end EntryLedger
