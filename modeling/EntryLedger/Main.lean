import EntryLedger.Command

/-!
# The program

Reads the files that a command names, carries the command out, and writes what
it replies.
-/

open EntryLedger

/-- The content of a file, unless it cannot be read. -/
def readFile? (name : String) : IO (Option String) := do
  try
    return some (← IO.FS.readFile name)
  catch _ =>
    return none

/-- Carry out the command that the arguments name. -/
def main (arguments : List String) : IO UInt32 := do
  let names := ((Command.ofArguments? arguments).map Command.files).getD []
  let contents ← names.mapM fun name => return (name, ← readFile? name)
  let files : Files := fun name => (contents.lookup name).join
  let reply := Command.runArguments files arguments
  IO.print reply.standard
  IO.eprint reply.diagnostic
  return reply.exitCode
