import EntryLedger.Machine.Context
import EntryLedger.Machine.Opcode

/-!
# The journal of a run

A journal notes the machines that a run sets up, the questions that it puts to
the output checker, and, if the run is traced, the instructions that it carries
out in full.  The trace is the list of the latter, and each of its steps is one
line of text.
-/

namespace EntryLedger

/-- An instruction that was carried out in full. -/
structure TraceStep where
  /-- The nesting level; zero for the outermost program. -/
  depth : Nat
  position : Nat
  opcode : Opcode
  gasBefore : Nat
  gasAfter : Nat
  /-- The data stack after the step. -/
  stack : List Bytes
  deriving DecidableEq

/-- Something that a run did. -/
inductive Event where
  /-- A machine was set up at a nesting level. -/
  | entered (depth : Nat)
  /-- The output checker was asked. -/
  | asked (query : OutputQuery)
  /-- An instruction was carried out. -/
  | finished (step : TraceStep)

/-- What happened, the latest first. -/
abbrev Journal := List Event

namespace Journal

/-- The steps that were carried out, in their order. -/
def trace (journal : Journal) : List TraceStep :=
  (journal.filterMap fun
    | .finished step => some step
    | _ => none).reverse

/-- The questions put to the output checker, in their order. -/
def queries (journal : Journal) : List OutputQuery :=
  (journal.filterMap fun
    | .asked query => some query
    | _ => none).reverse

end Journal

/-- A text that is filled with a character on the left up to a width. -/
def padLeft (width : Nat) (fill : Char) (text : String) : String :=
  String.ofList (List.replicate (width - text.length) fill) ++ text

/-- A text that is filled with blanks on the right up to a width. -/
def padRight (width : Nat) (text : String) : String :=
  text ++ String.ofList (List.replicate (width - text.length) ' ')

/-- The upper-case hexadecimal digits of a number, at least four. -/
def positionText (number : Nat) : String :=
  padLeft 4 '0' (String.ofList ((Nat.toDigits 16 number).map Char.toUpper))

/-- The line of a step with its number in the trace. -/
def TraceStep.line (step : TraceStep) (index : Nat) : String :=
  let indent := String.ofList (List.replicate (2 * step.depth) ' ')
  let top := step.stack.head?.elim "-" fun item => "0x" ++ Hex.encode (item.take 16)
  padLeft 4 ' ' (toString index) ++ ": " ++ indent ++
    "PC=" ++ positionText step.position ++ " " ++ padRight 14 step.opcode.name ++
    s!" gas={step.gasAfter} depth={step.stack.length} top=" ++ top

def traceLines (trace : List TraceStep) : List String :=
  trace.mapIdx fun index step => step.line index

end EntryLedger
