import EntryLedger.Graph

/-!
# Transactions

A transaction lists what it consumes and what it makes.  Its graph has one
entry for each input, one mux that all inputs feed, and one output or
retirement for each thing that it makes.
-/

namespace EntryLedger

/-- The use of an earlier output.  All that the identity of the output
commits to is repeated. -/
structure SpendInput where
  /-- The entry that the output took its value from. -/
  sourceId : Digest
  sourcePosition : UInt64
  value : Value
  program : Program
  arguments : List Bytes
  deriving DecidableEq

/-- The making of new units of an asset. -/
structure IssuanceInput where
  nonce : Bytes
  value : Value
  /-- The definition of the asset, unless the ledger knows it. -/
  definition : Option Definition
  arguments : List Bytes
  deriving DecidableEq

/-- The taking of a block reward. -/
structure CoinbaseInput where
  value : Value
  data : Bytes
  deriving DecidableEq

/-- Something that brings value into a transaction. -/
inductive Input where
  | spend (spend : SpendInput)
  | issuance (issuance : IssuanceInput)
  | coinbase (coinbase : CoinbaseInput)
  deriving DecidableEq

/-- A value under a program. -/
structure Payment where
  value : Value
  program : Program
  deriving DecidableEq

/-- What a transaction consists of. -/
structure Transaction where
  version : UInt64
  timeRange : TimeRange
  /-- The native amount that is left to the block. -/
  fee : UInt64
  inputs : List Input
  outputs : List Payment
  deriving DecidableEq

/-- The identity of the output that a spend uses. -/
def SpendInput.spentOutput (spend : SpendInput) : Digest :=
  outputId spend.sourceId spend.value spend.sourcePosition spend.program

namespace Input

def value : Input → Value
  | .spend body => body.value
  | .issuance body => body.value
  | .coinbase body => body.value

/-- The same input with other arguments; a coinbase has none. -/
def withArguments? (arguments : List Bytes) : Input → Option Input
  | .spend body => some (.spend { body with arguments := arguments })
  | .issuance body => some (.issuance { body with arguments := arguments })
  | .coinbase _ => none

/-- The entry of the input at a place, whose value goes to a mux. -/
def entry (input : Input) (mux index : Nat) : Entry :=
  let ordinal := UInt64.ofNat index
  let destination := some { entry := mux, value := input.value, position := ordinal }
  match input with
  | .spend body =>
      .spend {
        spentOutput := body.spentOutput
        program := body.program
        destination := destination
        arguments := body.arguments
        ordinal := ordinal }
  | .issuance body =>
      .issuance {
        nonceHash := Digest.hash body.nonce
        value := body.value
        destination := destination
        definition := body.definition
        arguments := body.arguments
        ordinal := ordinal }
  | .coinbase body =>
      .coinbase {
        destination := destination
        data := body.data
        ordinal := ordinal }

end Input

/-- The entry of the payment at a place, whose value comes from a mux. -/
def Payment.entry (payment : Payment) (mux index : Nat) : Entry :=
  let ordinal := UInt64.ofNat index
  let source : Link := { entry := mux, value := payment.value, position := ordinal }
  if payment.program.isRetirement then
    .retirement { source := source, ordinal := ordinal }
  else
    .output { source := source, program := payment.program, ordinal := ordinal }

namespace Transaction

/-- The program of the mux, which always succeeds. -/
def muxProgram : Program :=
  Program.first [0x51]

def mux (transaction : Transaction) : Mux where
  sources := transaction.inputs.mapIdx fun index input =>
    { entry := index, value := input.value, position := 0 }
  program := muxProgram
  destinations := transaction.outputs.mapIdx fun index payment =>
    { entry := transaction.inputs.length + 1 + index, value := payment.value, position := 0 }
  arguments := []

def entries (transaction : Transaction) : List Entry :=
  let mux := transaction.inputs.length
  (transaction.inputs.mapIdx fun index input => input.entry mux index) ++
    .mux transaction.mux ::
      transaction.outputs.mapIdx fun index payment => payment.entry mux index

/-- The places of the outputs and retirements. -/
def results (transaction : Transaction) : List Nat :=
  (List.range transaction.outputs.length).map (transaction.inputs.length + 1 + ·)

/-- The header of a transaction of the given encoded size. -/
def header (transaction : Transaction) (size : UInt64) : Header where
  version := transaction.version
  size := size
  timeRange := transaction.timeRange
  fee := transaction.fee

/-- The graph of a transaction of the given encoded size. -/
def graph (transaction : Transaction) (size : UInt64) : Except GraphError Graph :=
  if Graph.maxEntries < transaction.inputs.length + transaction.outputs.length + 1 then
    .error (.malformedEncoding .tooManyParts)
  else Graph.build (transaction.header size) transaction.entries transaction.results

end Transaction

end EntryLedger
