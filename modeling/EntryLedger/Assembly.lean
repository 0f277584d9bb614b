import EntryLedger.Assembly.Statement
import EntryLedger.Machine.Instruction

/-!
# Assembling programs

The place of every label is the length of the code before it.  Once all labels
have places, every statement is encoded on its own, pushes in their shortest
form.
-/

namespace EntryLedger

/-- Why statements have no code. -/
inductive LabelError where
  | undefinedLabel (label : String) (line : Nat)
  | duplicateLabel (label : String) (line firstLine : Nat)
  | tooLong
  deriving DecidableEq

def LabelError.message : LabelError → String
  | .undefinedLabel label line => "undefined label $" ++ label ++ s!" at line {line}"
  | .duplicateLabel label line firstLine =>
      "duplicate label $" ++ label ++
        s!" at line {line} (first defined at line {firstLine})"
  | .tooLong => "program exceeds the addressable size"

/-- Why program text has no code. -/
inductive AssemblyError where
  | source (cause : SourceError)
  | label (cause : LabelError)
  deriving DecidableEq

namespace AssemblyError

def detail : AssemblyError → String
  | .source cause => cause.message
  | .label cause => cause.message

def message : AssemblyError → String
  | .source cause => "parse error: " ++ cause.message
  | .label cause => "compile error: " ++ cause.message

end AssemblyError

/-- Where a label was defined. -/
structure LabelPlace where
  name : String
  offset : Nat
  line : Nat
  deriving DecidableEq

namespace Statement

/-- The code of a statement in which labels stand for the offsets that a
function gives, or the label that has none. -/
def code (offsetOf : String → Option UInt32) : Statement → Except String Bytes
  | .label _ => .ok []
  | .operation opcode => .ok [opcode]
  | .number value => .ok (Code.pushNumber value)
  | .data bytes => .ok (Code.push bytes)
  | .jump conditional (.offset offset) =>
      .ok (Code.jump (jumpOpcode conditional) offset)
  | .jump conditional (.label name) =>
      match offsetOf name with
      | some offset => .ok (Code.jump (jumpOpcode conditional) offset)
      | none => .error name

def length : Statement → Nat
  | .label _ => 0
  | .operation _ => 1
  | .number value => (Code.pushNumber value).length
  | .data bytes => (Code.push bytes).length
  | .jump _ _ => 5

end Statement

namespace Assembly

/-- The number of offsets that a jump can hold. -/
def addressable : Nat :=
  0x100000000

/-- Find the places of all labels, from an offset on and beside labels that
were found before. -/
def placeLabels (offset : Nat) (places : List LabelPlace) :
    List LocatedStatement → Except LabelError (List LabelPlace)
  | [] => if offset < addressable then .ok places else .error .tooLong
  | { line, statement } :: rest =>
      match statement with
      | .label name =>
          if addressable ≤ offset then .error .tooLong
          else
            match places.find? fun place => place.name = name with
            | some earlier => .error (.duplicateLabel name line earlier.line)
            | none =>
                placeLabels offset ({ name := name, offset := offset, line := line } :: places)
                  rest
      | other => placeLabels (offset + other.length) places rest

def offset? (places : List LabelPlace) (name : String) : Option UInt32 :=
  (places.find? fun place => place.name = name).map fun place =>
    UInt32.ofNat place.offset

/-- Encode statements one after the other. -/
def encode (offsetOf : String → Option UInt32) :
    List LocatedStatement → Except LabelError Bytes
  | [] => .ok []
  | { line, statement } :: rest =>
      match statement.code offsetOf with
      | .error name => .error (.undefinedLabel name line)
      | .ok code => (encode offsetOf rest).map (code ++ ·)

def compile (statements : List LocatedStatement) : Except LabelError Bytes := do
  let places ← placeLabels 0 [] statements
  encode (offset? places) statements

end Assembly

def assemble (source : String) : Except AssemblyError Bytes := do
  let statements ← (LocatedStatement.ofSource source).mapError .source
  (Assembly.compile statements).mapError .label

end EntryLedger
