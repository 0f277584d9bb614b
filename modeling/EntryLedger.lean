import EntryLedger.Assembly
import EntryLedger.Assembly.Listing
import EntryLedger.Assembly.Statement
import EntryLedger.Assembly.Token
import EntryLedger.Asset
import EntryLedger.Bytes
import EntryLedger.Bytes.Hex
import EntryLedger.Command
import EntryLedger.Command.Arguments
import EntryLedger.Digest
import EntryLedger.Digest.Blake3
import EntryLedger.Digest.Layout
import EntryLedger.Digest.Map
import EntryLedger.Digest.Sha512
import EntryLedger.Gas
import EntryLedger.Graph
import EntryLedger.Graph.Entry
import EntryLedger.Judgement
import EntryLedger.Judgement.Cause
import EntryLedger.Judgement.Coinbase
import EntryLedger.Judgement.Flow
import EntryLedger.Judgement.Guard
import EntryLedger.Judgement.Kind
import EntryLedger.Judgement.Setting
import EntryLedger.Judgement.Verdict
import EntryLedger.Judgement.Walk
import EntryLedger.Ledger
import EntryLedger.Ledger.Snapshot
import EntryLedger.Machine.Authorise
import EntryLedger.Machine.Context
import EntryLedger.Machine.Fault
import EntryLedger.Machine.Instruction
import EntryLedger.Machine.Journal
import EntryLedger.Machine.Machine
import EntryLedger.Machine.Number
import EntryLedger.Machine.Opcode
import EntryLedger.Machine.Operation.Attest
import EntryLedger.Machine.Operation.Bitwise
import EntryLedger.Machine.Operation.Numeric
import EntryLedger.Machine.Operation.Observe
import EntryLedger.Machine.Operation.Shuffle
import EntryLedger.Machine.Operation.Splice
import EntryLedger.Machine.StackEffect
import EntryLedger.Machine.Tape
import EntryLedger.Machine.Template
import EntryLedger.Main
import EntryLedger.Params
import EntryLedger.Params.Text
import EntryLedger.Proofs.Checks
import EntryLedger.Proofs.Digest.Map
import EntryLedger.Proofs.Graph.Built
import EntryLedger.Proofs.Graph.Edge
import EntryLedger.Proofs.Judgement.Balance
import EntryLedger.Proofs.Judgement.Visit
import EntryLedger.Signature
import EntryLedger.Signature.Curve
import EntryLedger.Text.Blank
import EntryLedger.Text.Decimal
import EntryLedger.Text.Glyph
import EntryLedger.Text.Json
import EntryLedger.Text.Json.Record
import EntryLedger.Text.Quote
import EntryLedger.Transaction
import EntryLedger.Transaction.Sealed
import EntryLedger.Transaction.Wire
import EntryLedger.Proofs.Judgement.Accepted
import EntryLedger.Proofs.Judgement.Conservation
import EntryLedger.Proofs.Graph.Identity
import EntryLedger.Proofs.Graph.Layout
import EntryLedger.Proofs.Graph.Commitment
import EntryLedger.Proofs.Transaction.Entries
import EntryLedger.Proofs.Transaction.Composition
import EntryLedger.Proofs.Judgement.Authorisation
import EntryLedger.Proofs.Machine.Step
import EntryLedger.Proofs.Machine.Moves
import EntryLedger.Proofs.Machine.Course
import EntryLedger.Proofs.Machine.Likeness
import EntryLedger.Proofs.Machine.RunLimit
import EntryLedger.Proofs.Machine.Faults
import EntryLedger.Proofs.Machine.Stops
import EntryLedger.Proofs.Machine.Intact
import EntryLedger.Proofs.Judgement.Breach
import EntryLedger.Proofs.Transaction.Spelling
import EntryLedger.Proofs.Transaction.Canonical
import EntryLedger.Proofs.Judgement.Permanence
import EntryLedger.Proofs.Machine.Termination
import EntryLedger.Proofs.Transaction.Commitment
import EntryLedger.Proofs.Machine.Boundary
import EntryLedger.Proofs.Machine.Allowance
import EntryLedger.Proofs.Machine.Thrift
import EntryLedger.Proofs.Machine.Memory
import EntryLedger.Proofs.Machine.Solvent
import EntryLedger.Proofs.Machine.PayToKey
import EntryLedger.Proofs.Machine.Positional.Access
import EntryLedger.Proofs.Machine.Positional.Stack
import EntryLedger.Proofs.Machine.Positional.Effect
import EntryLedger.Proofs.Machine.Positional.Reach
import EntryLedger.Proofs.Machine.Positional.Walk
import EntryLedger.Proofs.Machine.Positional.Decoding
import EntryLedger.Proofs.Machine.Positional.Agreement
import EntryLedger.Proofs.Transaction.RoundTrip
import EntryLedger.Proofs.Judgement.Provenance
import EntryLedger.Proofs.Judgement.Defects
import EntryLedger.Proofs.Machine.Unrefused
import EntryLedger.Proofs.Machine.Instructions
import EntryLedger.Proofs.Machine.PayToScript
import EntryLedger.Proofs.Judgement.Account
import EntryLedger.Proofs.Judgement.Credit
import EntryLedger.Proofs.Machine.Blindness
import EntryLedger.Proofs.Judgement.Blindness
import EntryLedger.Proofs.Machine.Deadline
import EntryLedger.Proofs.Judgement.Deadline
import EntryLedger.Proofs.Judgement.Locality
import EntryLedger.Proofs.Judgement.Amounts
import EntryLedger.Proofs.Text.Digits
import EntryLedger.Proofs.Machine.Encoding
import EntryLedger.Proofs.Machine.Shortest
import EntryLedger.Proofs.Assembly.Labels
import EntryLedger.Proofs.Assembly.Compilation
import EntryLedger.Proofs.Assembly.Tokens
import EntryLedger.Proofs.Assembly.Source
import EntryLedger.Proofs.Assembly.Listing
import EntryLedger.Proofs.Assembly.Reassembly
import EntryLedger.Proofs.Machine.Underflow
import EntryLedger.Proofs.Machine.Containment
import EntryLedger.Proofs.Machine.Multisignature
import EntryLedger.Proofs.Machine.Frame
import EntryLedger.Proofs.Graph.WellFormed
import EntryLedger.Proofs.Judgement.Mismatch
import EntryLedger.Proofs.Judgement.Muxes
import EntryLedger.Proofs.Transaction.Mapping
import EntryLedger.Proofs.Transaction.Exactness
import EntryLedger.Proofs.Transaction.Spending
import EntryLedger.Proofs.Transaction.Distinctness
import EntryLedger.Proofs.Machine.Numerals
import EntryLedger.Proofs.Machine.Arithmetic
import EntryLedger.Proofs.Judgement.Covenant
import EntryLedger.Proofs.Machine.Concatenation
import EntryLedger.Proofs.Machine.Brevity
import EntryLedger.Proofs.Machine.Trace
import EntryLedger.Proofs.Ledger.Snapshot
import EntryLedger.Proofs.Graph.Separation
import EntryLedger.Proofs.Gas.Meter
import EntryLedger.Proofs.Gas.Requests
