import EntryLedger.Assembly
import EntryLedger.Assembly.Listing
import EntryLedger.Command.Arguments
import EntryLedger.Judgement
import EntryLedger.Ledger.Snapshot
import EntryLedger.Params.Text
import EntryLedger.Signature
import EntryLedger.Text.Blank

/-!
# Running commands

A command reads some files and produces text and an exit code.  Everything is
read before anything is written, so an error never follows a partial report.
-/

namespace EntryLedger

/-- The contents of the files that can be read, by name. -/
abbrev Files := String → Option String

/-- What a command replies. -/
structure Reply where
  exitCode : UInt32
  standard : String
  diagnostic : String
  deriving DecidableEq

/-- What a file is read for. -/
inductive FileRole where
  | record
  | transaction
  | source
  deriving DecidableEq

def FileRole.phrase : FileRole → String
  | .record => ""
  | .transaction => "transaction file: "
  | .source => "source file: "

/-- Why a command does nothing. -/
inductive CommandError where
  | missingFile (role : FileRole) (name : String)
  | malformedRecord (name : String)
  | invalidHex (cause : HexError)
  | invalidTransaction (name : String) (cause : HexError)
  | undecodable (name : String) (cause : GraphError)
  | unassembled (name : String) (cause : AssemblyError)
  | unlisted (cause : ListingError)
  deriving DecidableEq

namespace CommandError

/-- What went wrong, from the outermost cause to the innermost one. -/
def chain : CommandError → List String
  | .missingFile role name =>
      ["Failed to read " ++ role.phrase ++ Quote.fileName name,
        "No such file or directory (os error 2)"]
  | .malformedRecord name => ["Failed to parse " ++ Quote.fileName name]
  | .invalidHex cause => ["Invalid hex", cause.message]
  | .invalidTransaction name cause =>
      ["Bad transaction hex in " ++ Quote.fileName name, "Invalid hex", cause.message]
  | .undecodable name cause =>
      ["Failed to decode transaction from " ++ Quote.fileName name, cause.message]
  | .unassembled name cause =>
      ["Failed to assemble " ++ Quote.fileName name, cause.message, cause.detail]
  | .unlisted (.truncated offset fault) =>
      ["Failed to disassemble", (ListingError.truncated offset fault).message,
        fault.message]
  | .unlisted cause => ["Failed to disassemble", cause.message]

def text (error : CommandError) : String :=
  "Error: " ++ String.intercalate ": " error.chain ++ "\n"

end CommandError

namespace Command

/-! ### Reading -/

def read (files : Files) (role : FileRole) (name : String) : Except CommandError String :=
  match files name with
  | some content => .ok content
  | none => .error (.missingFile role name)

/-- The bytes of a text in hexadecimal digits between blanks. -/
def bytesOf (text : String) : Except HexError Bytes :=
  Hex.decode (Hex.withoutMark (Text.trim text))

/-- The bytes of an encoded transaction. -/
def readTransaction (files : Files) (name : String) : Except CommandError Bytes := do
  let content ← read files .transaction name
  (bytesOf content).mapError (.invalidTransaction name)

/-- A record from a file, or a default when no file is named. -/
def readRecord {Result : Type} (files : Files) (parse : String → Option Result)
    (default : Result) : Option String → Except CommandError Result
  | none => .ok default
  | some name => do
      match parse (← read files .record name) with
      | some result => return result
      | none => throw (.malformedRecord name)

/-- The parameters in a file, or those of the main network. -/
def readParams (files : Files) (name : Option String) : Except CommandError Params :=
  readRecord files Params.ofText? Params.main name

/-- The ledger in a file, or the empty one. -/
def readLedger (files : Files) (name : Option String) : Except CommandError Ledger :=
  readRecord files (fun text => (Snapshot.ofText? text).map Ledger.ofSnapshot)
    Ledger.empty name

/-! ### Reporting -/

def lines (content : List String) : String :=
  String.join (content.map fun line => line ++ "\n")

def rejectionLines (rejection : Rejection) : List String :=
  let kind := rejection.cause.kind
  ["✗  Invalid",
    s!"    Code:     {kind.code}",
    "    Category: " ++ kind.category.name,
    "    Error:    " ++ rejection.cause.message] ++
    rejection.entry.toList.map (fun entry => "    Entry:    " ++ entry.text) ++
    (if kind.isTemporary then ["    (temporary: may succeed later)"] else [])

def verdictLines : Verdict → List String
  | .valid gasUsed entriesVisited =>
      ["✓  Valid", s!"    Gas used: {gasUsed}", s!"    Entries:  {entriesVisited}"]
  | .invalid rejection => rejectionLines rejection

def transactionLines (tx : Sealed) : List String :=
  ["  Tx id:   " ++ tx.id.hex,
    s!"  Size:    {tx.size.toNat} bytes",
    s!"  Entries: {tx.graph.entries.length}",
    ""]

def journalLines (journal : Journal) : List String :=
  "Trace:" :: traceLines journal.trace ++ [""]

/-- The report on a judgement. -/
def report (opening : List String) (judgement : Judgement) : Reply :=
  let heading := "Validating transaction..." :: opening
  match judgement.outcome with
  | .ok (.valid gasUsed entriesVisited) =>
      { exitCode := 0
        standard := lines (heading ++ verdictLines (.valid gasUsed entriesVisited))
        diagnostic := "" }
  | .ok (.invalid rejection) =>
      { exitCode := 1
        standard := lines (heading ++ verdictLines (.invalid rejection))
        diagnostic := "" }
  | .error _ =>
      { exitCode := 101
        standard := lines heading
        diagnostic := "Error: arithmetic overflow\n" }

/-! ### Running -/

/-- Judge an encoded transaction. -/
def runJudge (files : Files) (options : JudgeOptions) : Except CommandError Reply := do
  let params ← readParams files options.params
  let ledger ← readLedger files options.ledger
  let bytes ← readTransaction files options.transaction
  let setting : Setting := {
    params := params
    blockHeight := options.height
    blockTime := options.time
    position := options.position
    requiresTemplates := options.requiresTemplates
    expired := false
    verifySignature := Signature.verify }
  match Sealed.decode bytes params.maxTransactionSize with
  | .error error =>
      return report [s!"  Size:    {bytes.length} bytes", ""]
        (.refuse (.rejected (.general (.ofGraphError error))) [])
  | .ok tx =>
      let judgement := tx.judge ledger.view setting
      let trace := if options.showsTrace then journalLines judgement.journal else []
      return report (transactionLines tx ++ trace) judgement

/-- The line of an output of a transaction. -/
def outputLine (tx : Sealed) (index : Nat) (payment : Payment) : Option String :=
  (tx.outputId? index).map fun id =>
    s!"  output {index}: " ++ id.hex ++ s!" ({payment.value.amount.toNat} of " ++
      payment.value.asset.text ++ ")"

/-- A successful command that only writes lines. -/
def success (content : List String) : Reply where
  exitCode := 0
  standard := lines content
  diagnostic := ""

/-- Show the identities of a transaction and of its outputs. -/
def runIdentify (files : Files) (name : String) (params : Option String) :
    Except CommandError Reply := do
  let params ← readParams files params
  let bytes ← readTransaction files name
  let tx ← (Sealed.decode bytes params.maxTransactionSize).mapError (.undecodable name)
  let outputs := tx.transaction.outputs.zipIdx.filterMap fun (payment, index) =>
    outputLine tx index payment
  return success (tx.id.hex :: outputs)

/-- Assemble a program. -/
def runAssemble (files : Files) (name : String) : Except CommandError Reply := do
  let source ← read files .source name
  let code ← (EntryLedger.assemble source).mapError (.unassembled name)
  return success [Hex.encode code]

def runList (digits : String) : Except CommandError Reply := do
  let code ← (bytesOf digits).mapError .invalidHex
  let listing ← (disassemble code).mapError .unlisted
  return success [listing]

def execute (files : Files) : Command → Except CommandError Reply
  | .judge options => runJudge files options
  | .identify transaction params => runIdentify files transaction params
  | .assemble source => runAssemble files source
  | .list digits => runList digits

/-- Carry out a command, and report its failure if it fails. -/
def run (files : Files) (command : Command) : Reply :=
  match command.execute files with
  | .ok reply => reply
  | .error error => { exitCode := 1, standard := "", diagnostic := error.text }

/-- The reply to arguments that are no command. -/
def misuse : Reply where
  exitCode := 2
  standard := ""
  diagnostic := "Error: expected one of the commands validate, txid, asm and disasm\n"

/-- Carry out the command that arguments name. -/
def runArguments (files : Files) (arguments : List String) : Reply :=
  match ofArguments? arguments with
  | some command => command.run files
  | none => misuse

end Command

end EntryLedger
