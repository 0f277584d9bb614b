import EntryLedger.Proofs.Machine.Intact
import EntryLedger.Proofs.Machine.Positional.Fitting
import EntryLedger.Proofs.Machine.Positional.Effect

/-!
# The machine by position

This machine decodes instructions, takes operands, hands items over and keeps accounts by
positions and words.  Where a position, a sum, a difference or a shift is out of its range
it has slipped, and it stops when one of its lists gets too long for memory.  What has to
do with neither positions nor words it leaves to the actions of machines.
-/

namespace EntryLedger.Positional

open Access
open Machine (Call Next maxDepth predicateOpcode itemCost)

/-- An action of the machine by position. -/
abbrev Walk (Result : Type) := EStateM (Exit Stop) Machine Result

/-- How a run ends, as the end of a walk. -/
def lifted {Result : Type} :
    EStateM.Result Stop Machine Result → EStateM.Result (Exit Stop) Machine Result
  | .ok result after => .ok result after
  | .error stop after => .error (.early stop) after

/-- An action that needs no positions. -/
def lift {Result : Type} (action : Run Result) : Walk Result := fun machine =>
  lifted (action.run machine)

def refuse (fault : Fault) : Stop :=
  .fault fault

def fault {Result : Type} (cause : Fault) : Walk Result :=
  throw (.early (.fault cause))

/-- The value that is found by position. -/
def reach {Result : Type} : Access Stop Result → Walk Result
  | .ok result => pure result
  | .error exit => throw exit

/-! ### Decoding -/

/-- The bytes of a program from a position on, which have to be there. -/
def immediate (program : Bytes) (first length : Nat) : Access Stop Bytes := do
  let last ← checkedSum first length (refuse .shortProgram)
  if last ≤ program.length then return (program.drop first).take length
  else early (refuse .shortProgram)

/-- An instruction whose item follows some number of bytes. -/
def carrying (opcode : Opcode) (front : Nat) (data : Bytes) : Access Stop Instruction := do
  let length ← sum front data.length
  if 0xffffffff < length then early (refuse .longProgram)
  else return { opcode := opcode, length := length, data := data }

/-- An instruction whose item or target has a fixed length. -/
def fixedData (program : Bytes) (position : Nat) (opcode : Opcode) (length : Nat) :
    Access Stop Instruction := do
  let first ← sum position 1
  let data ← immediate program first length
  carrying opcode 1 data

/-- An instruction whose item is preceded by its length in `width` bytes. -/
def sizedPush (program : Bytes) (position : Nat) (opcode : Opcode) (width : Nat) :
    Access Stop Instruction := do
  let first ← sum position 1
  let written ← immediate program first width
  let word ← overwrite (List.replicate 4 0) width written
  let length := Bytes.ofLittleEndian word
  if Instruction.maxLength < length then early (refuse .longProgram)
  else
    let first ← sum first width
    let data ← immediate program first length
    let front ← sum 1 width
    carrying opcode front data

/-- The small number that an opcode pushes. -/
def smallNumber (opcode : Opcode) : Access Stop Instruction := do
  let below ← byteDifference opcode 0x51
  let number ← byteSum below 1
  return { opcode := opcode, length := 1, data := [number] }

/-- The instruction at a position of a program. -/
def decode (program : Bytes) (position : Nat) : Access Stop Instruction :=
  match program[position]? with
  | none => early (refuse .shortProgram)
  | some opcode =>
      let number := opcode.toNat
      if 1 ≤ number ∧ number ≤ 75 then fixedData program position opcode number
      else if number = 0x4c then sizedPush program position opcode 1
      else if number = 0x4d then sizedPush program position opcode 2
      else if number = 0x4e then sizedPush program position opcode 4
      else if number = 0x63 ∨ number = 0x64 then fixedData program position opcode 4
      else if number = 0x4f then
        return { opcode := opcode, length := 1, data := Number.write (-1) }
      else if 0x51 ≤ number ∧ number ≤ 0x60 then smallNumber opcode
      else return { opcode := opcode, length := 1, data := [] }

/-- The instruction that a machine is at and its operation. -/
def fetch (machine : Machine) : Access Stop (Instruction × Operation) := do
  let instruction ← decode machine.tape.program machine.position
  match instruction.opcode.operation? with
  | none => early (refuse (.unrecognizedToken instruction.opcode))
  | some operation =>
      if machine.version < instruction.opcode.since then
        early (refuse (.disallowedOpcode instruction.opcode))
      else return (instruction, operation)

/-! ### Gas -/

/-- Pay gas from the meter and from the allowance, if there is one. -/
def charge (amount : Nat) : Walk Unit := do
  let machine ← get
  let meter := machine.books.meter
  if machine.allowance.any (· < amount) then fault .runLimitExceeded
  else if meter.remaining < amount then
    set { machine with books.meter.exhausted := true }
    fault .runLimitExceeded
  else
    let remaining ← reach (difference meter.remaining amount)
    let used ← reach (sum meter.used amount)
    set { machine with books.meter := { meter with
      remaining := remaining
      used := used
      charges := meter.charges + 1 } }
    if Machine.late meter then fault .deadlineExceeded
    else
      match machine.allowance with
      | some own =>
          let left ← reach (difference own amount)
          modify fun machine => { machine with allowance := some left }
      | none => pure ()

/-- Push an item and pay for its memory. -/
def push (item : Bytes) : Walk Unit := do
  let cost ← reach (checkedSum itemCost item.length (refuse .rangeError))
  charge cost
  modify fun machine => { machine with stack := item :: machine.stack }

def pushAll : List Bytes → Walk Unit
  | [] => pure ()
  | item :: items => do
      push item
      pushAll items

def payToll : Option Nat → Walk Unit
  | some toll => charge toll
  | none => pure ()

/-- Push what an effect gives, or stop as it does. -/
def deliver : Except Stop (List Bytes) → Walk Unit
  | .ok items => pushAll items
  | .error stop => throw (.early stop)

/-- Carry out an effect on the data stack. -/
def settle (effect : StackEffect) : Walk Unit := do
  payToll effect.toll
  lift (Machine.setStack effect.stack)
  lift (Machine.noteQuery effect.query)
  deliver effect.outcome

/-- Carry out an operation that only affects the data stack. -/
def affect (effect : List Bytes → Access StackEffect StackEffect) : Walk Next := do
  let machine ← get
  let effect ← reach (effect machine.stack.reverse).result
  settle effect
  return .following

/-! ### Predicates -/

/-- How many items an operand hands over, which is minus one for all of them. -/
def handed (items : List Bytes) (number : Int) : Access Stop Nat :=
  if number = -1 then difference items.length 3
  else if 0 ≤ number then return number.toNat
  else early (refuse .badValue)

/-- Read a call from a stack whose last item is the top. -/
def callOf (items : List Bytes) : Access Stop Call := do
  let limit ← peekNumber refuse items 0
  let number ← peekNumber refuse items 2
  if limit < 0 then early (refuse .badValue)
  else
    let count ← handed items number
    let needed ← checkedSum count 3 (refuse .dataStackUnderflow)
    if items.length < needed then early (refuse .dataStackUnderflow)
    else
      let (_, items) ← pop refuse items
      let (predicate, items) ← pop refuse items
      let (_, items) ← pop refuse items
      let first ← difference items.length count
      let (rest, given) ← splitAt items first
      return {
        predicate := predicate, items := given.reverse
        rest := rest.reverse, limit := limit.toNat }

/-- How a nested walk ended for its caller, unless it slipped. -/
def outcomeOf : EStateM.Result (Exit Stop) Machine Halt → Access Stop (Except Stop Halt)
  | .ok halt _ => .ok (.ok halt)
  | .error (.early stop) _ => .ok (.error stop)
  | .error exit _ => .error exit

/-- Go on after a nested walk as its outcome says. -/
def resume : Except Stop Bool → Walk Unit
  | .ok succeeded => push (Number.ofTruth succeeded)
  | .error stop => throw (.early stop)

/-- Go on as the caller of a nested walk that has ended. -/
def takeBack (caller : Machine) (call : Call)
    (ended : EStateM.Result (Exit Stop) Machine Halt) : Walk Unit := do
  let outcome ← reach (outcomeOf ended)
  let books := (Runs.final ended).books
  let spent ← reach (difference books.meter.used caller.books.meter.used)
  set { caller with
    stack := call.rest
    allowance := caller.allowance.map (· - spent)
    books := books }
  resume (Machine.verdictOf books.meter.exhausted outcome)

/-- Run a predicate on a machine of its own and push whether it succeeded. -/
def checkPredicate (nested : Walk Halt) : Walk Unit := do
  let caller ← get
  if maxDepth ≤ caller.depth then fault (.disallowedOpcode predicateOpcode)
  else
    let call ← reach (callOf caller.stack.reverse)
    let depth ← reach (sum caller.depth 1)
    takeBack caller call (nested.run { call.machine caller with depth := depth })

/-! ### Steps and runs -/

/-- Carry out an operation.  `nested` runs the machine of a predicate. -/
def execute (nested : Walk Halt) (context : Context) (data : Bytes)
    (operation : Operation) : Walk Next :=
  match operation with
  | .checkPredicate => do
      checkPredicate nested
      return .following
  | .push => do
      push data
      return .following
  | .shuffle shuffle => affect shuffle.byPosition
  | .splice splice => affect splice.byPosition
  | .bitwise bitwise => affect bitwise.byPosition
  | .numeric numeric => affect numeric.byPosition
  | .attest attest => affect (attest.byPosition context.verifySignature)
  | .observe observe => affect (observe.byPosition context)
  | operation =>
      lift (Machine.execute (throw (.breach .missingOperand)) context data operation)

/-- Do what a step does before it notes its instruction. -/
def perform (nested : Walk Halt) (context : Context) (machine : Machine) :
    Walk (Instruction × Next) := do
  let fetched ← reach (fetch machine)
  charge fetched.2.cost
  lift (Machine.attempt (machine.allow fetched.1 fetched.2))
  lift Machine.countStart
  let next ← execute nested context fetched.1.data fetched.2
  return (fetched.1, next)

/-- Carry out one instruction, and tell how the program halts if it does. -/
def stepWith (nested : Walk Halt) (context : Context) : Walk (Option Halt) := do
  let machine ← get
  let performed ← perform nested context machine
  lift (Machine.conclude machine performed)

/-- The lists of a machine fit memory. -/
structure InMemory (machine : Machine) : Prop where
  program : machine.tape.program.length ≤ maxSize
  stack : Fits machine.stack
  alt : Fits machine.alt

instance (machine : Machine) : Decidable (InMemory machine) :=
  decidable_of_iff
    (machine.tape.program.length ≤ maxSize ∧ Fits machine.stack ∧ Fits machine.alt)
    ⟨fun ⟨program, stack, alt⟩ => ⟨program, stack, alt⟩,
      fun inMemory => ⟨inMemory.program, inMemory.stack, inMemory.alt⟩⟩

/-- Take steps until the program halts or is stopped, or memory is full. -/
def loop (step : Walk (Option Halt)) (machine : Machine) :
    EStateM.Result (Exit Stop) Machine Halt :=
  if ¬ InMemory machine then .error .full machine
  else if machine.position < machine.tape.length then
    match step.run machine with
    | .error exit after => .error exit after
    | .ok (some halt) after => .ok halt after
    | .ok none after =>
        if after.books.meter.remaining < machine.books.meter.remaining then
          loop step after
        else .error (.early (.breach .stalled)) after
  else .ok machine.haltAtEnd machine
termination_by machine.books.meter.remaining

/-- Run a machine below which the given number of levels may be nested. -/
def runLevels (context : Context) : Nat → Walk Halt
  | 0 => loop (stepWith (throw (.early (.breach .missingOperand))) context)
  | levels + 1 => loop (stepWith (runLevels context levels) context)

def run (context : Context) : Walk Halt := fun machine =>
  runLevels context (maxDepth - machine.depth) machine

def step (context : Context) : Walk (Option Halt) := fun machine =>
  stepWith (runLevels context (maxDepth - machine.depth - 1)) context machine

end EntryLedger.Positional
