import EntryLedger.Machine.Machine
import EntryLedger.Machine.Template

/-!
# Authorisation and sessions

A program authorises the use of its entry when it halts with success on the
arguments of that entry.  A session runs a machine by hand and remembers how
its last run ended.
-/

namespace EntryLedger

/-- An action on the books of a transaction. -/
abbrev Booked (Result : Type) := EStateM Stop Books Result

namespace Machine

/-- Push arguments, the first one lowest, and run to the end. -/
def runOn (context : Context) (arguments : List Bytes) : Run Halt := do
  pushAll arguments
  run context

/-- The fault, if any, of a program that was to authorise something and
halted. -/
def Halt.refusal? : Halt → Option Fault
  | .success => none
  | .returned => some .returnExecuted
  | .falseResult => some .falseResult

/-- Check that arguments satisfy a program.  Unsupported versions are refused
before anything runs, and templates are expanded. -/
def authorise (context : Context) (program : Program) (arguments : List Bytes) :
    Booked Unit := fun books =>
  if program.version = 0 ∨ context.maxVersion < program.version then
    .error (.fault (.unsupportedVersion program.version)) books
  else if Instruction.maxLength < program.code.length then
    .error (.fault .longProgram) books
  else
    let code := (Template.expand? program.code).getD program.code
    match (runOn context arguments).run (start code program.version books) with
    | .error stop machine => .error stop machine.books
    | .ok halt machine =>
        match Halt.refusal? halt with
        | some fault => .error (.fault fault) machine.books
        | none => .ok () machine.books

end Machine

/-- Whether a machine has been run, and how its last run ended. -/
inductive Status where
  | running
  | halted (halt : Halt)
  | aborted (stop : Stop)
  deriving DecidableEq

/-- A machine that is run by hand. -/
structure Session where
  machine : Machine
  status : Status

namespace Session

/-- A session at the start of a program. -/
def start (program : Bytes) (version : UInt64) (meter : Meter) (traced : Bool) :
    Session where
  machine := Machine.start program version (.ofMeter meter traced)
  status := .running

/-- Do an action on the machine. -/
def act {Result : Type} (session : Session) (action : Run Result) :
    Except Stop Result × Session :=
  match action.run session.machine with
  | .ok value machine => (.ok value, { session with machine := machine })
  | .error stop machine => (.error stop, { session with machine := machine })

def push (session : Session) (item : Bytes) : Except Stop Unit × Session :=
  session.act (Machine.push item)

/-- Push items until one of them cannot be paid. -/
def pushAll (session : Session) (items : List Bytes) : Except Stop Unit × Session :=
  session.act (Machine.pushAll items)

/-- Carry out one instruction. -/
def step (session : Session) (context : Context) :
    Except Stop (Option Halt) × Session :=
  session.act (Machine.step context)

/-- Run to the end and remember how the run ended. -/
def run (session : Session) (context : Context) : Except Stop Halt × Session :=
  let (outcome, after) := session.act (Machine.run context)
  let status :=
    match outcome with
    | .ok halt => .halted halt
    | .error stop => .aborted stop
  (outcome, { after with status := status })

end Session

end EntryLedger
