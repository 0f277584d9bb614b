import EntryLedger.Gas
import EntryLedger.Machine.Journal
import EntryLedger.Machine.Operation.Attest
import EntryLedger.Machine.Operation.Bitwise
import EntryLedger.Machine.Operation.Numeric
import EntryLedger.Machine.Operation.Observe
import EntryLedger.Machine.Operation.Shuffle
import EntryLedger.Machine.Operation.Splice
import EntryLedger.Machine.Tape

/-!
# The stack machine

A machine runs one program on a data stack and a second stack for items put
aside.  It pays for every instruction and every pushed item from the meter of
its transaction, and a nested machine also from the allowance that the
enclosing program granted.  `CHECKPREDICATE` runs another machine to its end
within one step.

A run ends because every step uses gas, and nesting is bounded by a fixed
depth.
-/

namespace EntryLedger

/-- What all programs of a transaction share. -/
structure Books where
  meter : Meter
  /-- The number of instructions that were started, at all nesting levels. -/
  started : Nat
  /-- Whether the journal notes the instructions that are carried out. -/
  traced : Bool
  journal : Journal

/-- The books before anything has run. -/
def Books.ofMeter (meter : Meter) (traced : Bool) : Books where
  meter := meter
  started := 0
  traced := traced
  journal := []

/-- The state of a machine. -/
structure Machine where
  tape : Tape
  version : UInt64
  /-- The position of the next instruction. -/
  position : Nat
  /-- The data stack, whose head is the top. -/
  stack : List Bytes
  /-- The items put aside, whose head was put there last. -/
  alt : List Bytes
  /-- The nesting level. -/
  depth : Nat
  /-- The gas left under the limit of an enclosing `CHECKPREDICATE`. -/
  allowance : Option Nat
  books : Books

/-- How a program ends by itself. -/
inductive Halt where
  /-- It ran off its end with a true item on top. -/
  | success
  /-- It executed `FAIL`. -/
  | returned
  /-- It ran off its end without a true item on top. -/
  | falseResult
  deriving DecidableEq

/-- An action of a machine.  What it did before it was stopped stays done. -/
abbrev Run (Result : Type) := EStateM Stop Machine Result

namespace Machine

/-- How far `CHECKPREDICATE` may nest. -/
def maxDepth : Nat :=
  16

def predicateOpcode : Opcode :=
  0xc0

/-- The gas of a pushed item on top of its length. -/
def itemCost : Nat :=
  8

/-- A machine at the start of a program. -/
def start (program : Bytes) (version : UInt64) (books : Books) : Machine where
  tape := .ofProgram program
  version := version
  position := 0
  stack := []
  alt := []
  depth := 0
  allowance := none
  books := { books with journal := .entered 0 :: books.journal }

def fault {Result : Type} (cause : Fault) : Run Result :=
  throw (.fault cause)

/-- The value of a computation that may fail. -/
def attempt {Result : Type} (result : Except Fault Result) : Run Result :=
  match result with
  | .ok value => pure value
  | .error cause => fault cause

def note (event : Event) : Run Unit :=
  modify fun machine =>
    { machine with books.journal := event :: machine.books.journal }

/-- Count an instruction that is about to be carried out. -/
def countStart : Run Unit :=
  modify fun machine =>
    { machine with books.started := machine.books.started + 1 }

def setStack (stack : List Bytes) : Run Unit :=
  modify fun machine => { machine with stack := stack }

/-- Pay gas from the meter and from the allowance, if there is one.  When the
meter takes the gas and then finds the deadline passed, the allowance is left
as it was. -/
def charge (amount : Nat) : Run Unit := do
  let machine ← get
  if machine.allowance.any (· < amount) then fault .runLimitExceeded
  else
    match (Meter.charge amount).run machine.books.meter with
    | .ok _ meter =>
        set { machine with
          books.meter := meter
          allowance := machine.allowance.map (· - amount) }
    | .error error meter =>
        set { machine with books.meter := meter }
        fault error.toFault

/-- Push an item and pay for its memory. -/
def push (item : Bytes) : Run Unit := do
  charge (itemCost + item.length)
  modify fun machine => { machine with stack := item :: machine.stack }

def pushAll : List Bytes → Run Unit
  | [] => pure ()
  | item :: items => do
      push item
      pushAll items

/-- Carry out an effect on the data stack. -/
def settle (effect : StackEffect) : Run Unit := do
  match effect.toll with
  | some toll => charge toll
  | none => pure ()
  setStack effect.stack
  match effect.query with
  | some query => note (.asked query)
  | none => pure ()
  match effect.outcome with
  | .ok items => pushAll items
  | .error stop => throw stop

def pop : Run Bytes := do
  match (← get).stack with
  | item :: below =>
      setStack below
      return item
  | [] => throw (.breach .missingOperand)

/-- The target that a jump carries. -/
def jumpTarget (data : Bytes) : Except Fault Nat :=
  if data.length = 4 then .ok (Bytes.ofLittleEndian data)
  else .error (.unexpectedError "jump without target")

/-- A nested run as its operands describe it. -/
structure Call where
  predicate : Bytes
  /-- The items handed to the predicate, the top first. -/
  items : List Bytes
  /-- The stack that is left to the caller. -/
  rest : List Bytes
  /-- The limit on the gas of the nested run; zero for the limit of the
  caller. -/
  limit : Nat

/-- Read a call from the stack: a limit on top, then a predicate, then the
number of items to hand over, which is minus one for all of them. -/
def Call.ofStack : List Bytes → Except Stop Call
  | limitItem :: predicate :: countItem :: below =>
      match Number.read limitItem, Number.read countItem with
      | some limit, some count =>
          if limit < 0 then .error (.fault .badValue)
          else if count < -1 then .error (.fault .badValue)
          else
            let taken := if count = -1 then below.length else count.toNat
            if below.length < taken then .error (.fault .dataStackUnderflow)
            else
              .ok { predicate := predicate, items := below.take taken
                    rest := below.drop taken, limit := limit.toNat }
      | _, _ => .error (.fault .badValue)
  | _ => .error (.breach .missingOperand)

/-- The allowance of a nested run under a limit operand and the allowance of
its caller. -/
def Call.allowance (call : Call) (own : Option Nat) : Option Nat :=
  if call.limit = 0 then own
  else
    match own with
    | some allowance => some (min call.limit allowance)
    | none => some call.limit

/-- The machine that a call sets up. -/
def Call.machine (call : Call) (caller : Machine) : Machine where
  tape := .ofProgram call.predicate
  version := caller.version
  position := 0
  stack := call.items
  alt := []
  depth := caller.depth + 1
  allowance := call.allowance caller.allowance
  books := { caller.books with
    journal := .entered (caller.depth + 1) :: caller.books.journal }

/-- Whether a finished nested run lets its caller go on, and with which
result.  Running out of the shared gas or time stops the caller as well; any
other failure only makes the predicate false. -/
def verdictOf (exhausted : Bool) : Except Stop Halt → Except Stop Bool
  | .ok halt => .ok (halt = .success)
  | .error (.breach cause) => .error (.breach cause)
  | .error (.fault .deadlineExceeded) => .error (.fault .deadlineExceeded)
  | .error (.fault _) =>
      if exhausted then .error (.fault .runLimitExceeded) else .ok false

/-- Run a predicate on a machine of its own and push whether it
succeeded. -/
def checkPredicate (nested : Run Halt) : Run Unit := do
  let caller ← get
  if maxDepth ≤ caller.depth then fault (.disallowedOpcode predicateOpcode)
  match Call.ofStack caller.stack with
  | .error stop => throw stop
  | .ok call =>
      let (outcome, books) :=
        match nested.run (call.machine caller) with
        | .ok halt machine => (Except.ok halt, machine.books)
        | .error stop machine => (Except.error stop, machine.books)
      let spent := books.meter.used - caller.books.meter.used
      set { caller with
        stack := call.rest
        allowance := caller.allowance.map (· - spent)
        books := books }
      match verdictOf books.meter.exhausted outcome with
      | .ok succeeded => push (Number.ofTruth succeeded)
      | .error stop => throw stop

/-- Where a program goes after an instruction. -/
inductive Next where
  | following
  | target (position : Nat)
  | halt

/-- Carry out an operation.  `nested` runs the machine of a predicate. -/
def execute (nested : Run Halt) (context : Context) (data : Bytes)
    (operation : Operation) : Run Next := do
  match operation with
  | .nop => return .following
  | .fail => return .halt
  | .jump =>
      let target ← attempt (jumpTarget data)
      return .target target
  | .jumpIf =>
      let target ← attempt (jumpTarget data)
      let condition ← pop
      if Number.truth condition then return .target target else return .following
  | .verify =>
      let condition ← pop
      if Number.truth condition then return .following else fault .verifyFailed
  | .toAlt =>
      let item ← pop
      modify fun machine => { machine with alt := item :: machine.alt }
      return .following
  | .fromAlt =>
      let machine ← get
      match machine.alt with
      | item :: rest =>
          set { machine with alt := rest, stack := item :: machine.stack }
          return .following
      | [] => fault .altStackUnderflow
  | .checkPredicate =>
      checkPredicate nested
      return .following
  | .push =>
      push data
      return .following
  | .shuffle shuffle =>
      settle (shuffle.effect (← get).stack)
      return .following
  | .splice splice =>
      settle (splice.effect (← get).stack)
      return .following
  | .bitwise bitwise =>
      settle (bitwise.effect (← get).stack)
      return .following
  | .numeric numeric =>
      settle (numeric.effect (← get).stack)
      return .following
  | .attest attest =>
      settle (attest.effect context.verifySignature (← get).stack)
      return .following
  | .observe observe =>
      settle (observe.effect context (← get).stack)
      return .following

/-- Note that an instruction was carried out, if such notes are wanted. -/
def record (opcode : Opcode) (gasBefore : Nat) : Run Unit := do
  let machine ← get
  if machine.books.traced then
    note (.finished {
      depth := machine.depth
      position := machine.position
      opcode := opcode
      gasBefore := gasBefore
      gasAfter := machine.books.meter.remaining
      stack := machine.stack })

/-- Whether a stack has fewer items than needed.  No more items are looked at
than are needed. -/
def lacks (stack : List Bytes) (needed : Nat) : Bool :=
  (stack.take needed).length < needed

theorem lacks_iff {stack : List Bytes} {needed : Nat} :
    lacks stack needed = true ↔ stack.length < needed := by
  simp only [lacks, List.length_take, decide_eq_true_eq]
  omega

/-- Carry out one instruction, and tell how the program halts if it does.
The position stays at an instruction that fails or halts. -/
def stepWith (nested : Run Halt) (context : Context) : Run (Option Halt) := do
  let machine ← get
  let instruction ← attempt (machine.tape.decode machine.position)
  match instruction.opcode.operation? with
  | none => fault (.unrecognizedToken instruction.opcode)
  | some operation =>
      if machine.version < instruction.opcode.since then
        fault (.disallowedOpcode instruction.opcode)
      charge operation.cost
      if lacks machine.stack operation.operands then fault .dataStackUnderflow
      let following := machine.position + instruction.length
      if 0x100000000 ≤ following then fault .longProgram
      countStart
      let next ← execute nested context instruction.data operation
      record instruction.opcode machine.books.meter.remaining
      match next with
      | .halt => return some .returned
      | .target position =>
          modify fun machine => { machine with position := position }
          return none
      | .following =>
          modify fun machine => { machine with position := following }
          return none

/-- How a program ends that runs off its end. -/
def haltAtEnd (machine : Machine) : Halt :=
  if machine.stack.head?.any Number.truth then .success else .falseResult

/-- Take steps until the program halts or is stopped.  Every step uses gas;
one that did not would be a breach. -/
def loop (step : Run (Option Halt)) (machine : Machine) :
    EStateM.Result Stop Machine Halt :=
  if machine.position < machine.tape.length then
    match step.run machine with
    | .error stop after => .error stop after
    | .ok (some halt) after => .ok halt after
    | .ok none after =>
        if after.books.meter.remaining < machine.books.meter.remaining then
          loop step after
        else .error (.breach .stalled) after
  else .ok machine.haltAtEnd machine
termination_by machine.books.meter.remaining

/-- Run a machine below which the given number of levels may be nested. -/
def runLevels (context : Context) : Nat → Run Halt
  | 0 => loop (stepWith (throw (.breach .missingOperand)) context)
  | levels + 1 => loop (stepWith (runLevels context levels) context)

def run (context : Context) : Run Halt := fun machine =>
  runLevels context (maxDepth - machine.depth) machine

def step (context : Context) : Run (Option Halt) := fun machine =>
  stepWith (runLevels context (maxDepth - machine.depth - 1)) context machine

end Machine

end EntryLedger
