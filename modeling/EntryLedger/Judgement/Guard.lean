import EntryLedger.Judgement.Setting
import EntryLedger.Judgement.Walk
import EntryLedger.Machine.Authorise

/-!
# The programs of a transaction

Spends and muxes are guarded by their own programs, issuances by the program
of the definition of their asset.  Each program sees the entry that it guards,
and can ask about the outputs of the mux that the value of the entry goes to.
-/

namespace EntryLedger

/-- A program that has to succeed, and where the value that it guards goes. -/
structure Guard where
  program : Program
  destination : Option Link
  /-- The output that is spent, if the program guards a spend. -/
  spentOutput : Option Digest

/-- The guard of an entry, if it has one. -/
def Tally.guard? (tally : Tally) (index : Nat) : Entry → Except Cause (Option Guard)
  | .spend spend =>
      .ok (some {
        program := spend.program
        destination := spend.destination
        spentOutput := some spend.spentOutput })
  | .issuance issuance =>
      match tally.definitions.lookup index with
      | none => .error (.internal .unresolvedDefinition)
      | some definition =>
          .ok (some {
            program := definition.program
            destination := issuance.destination
            spentOutput := none })
  | .mux mux => .ok (some { program := mux.program, destination := none, spentOutput := none })
  | .output _ | .coinbase _ | .retirement _ => .ok none

namespace Graph

/-- Whether a destination of a mux is the output that a program asks for.  A
retirement answers to every program of the first version that fails at
once. -/
def answers (graph : Graph) (query : OutputQuery) (link : Link) : Bool :=
  if link.value.amount ≠ query.amount ∨ link.value.asset ≠ query.asset then false
  else
    match graph.entry? link.entry with
    | some (.output output) =>
        output.program.version == query.version && output.program.code == query.code
    | some (.retirement _) =>
        query.version == 1 && (Program.first query.code).isRetirement
    | _ => false

/-- Answers questions about the outputs of the mux that a link leads to. -/
def outputChecker? (graph : Graph) (link : Link) : Option OutputChecker :=
  match graph.entry? link.entry with
  | some (.mux mux) =>
      some fun query =>
        match mux.destinations[query.index.toNat]? with
        | none => .error .badValue
        | some destination => .ok (graph.answers query destination)
  | _ => none

/-- What the program of a guard can observe. -/
def guardContext (graph : Graph) (setting : Setting) (id : EntryId)
    (signatureHash : Digest) (guard : Guard) : Context where
  maxVersion := setting.params.maxMachineVersion
  blockHeight := setting.blockHeight
  blockTime := setting.blockTime
  transactionId := graph.id
  entryId := id
  signatureHash := signatureHash
  program := guard.program.code
  asset := guard.destination.map fun link => link.value.asset
  amount := guard.destination.map fun link => link.value.amount
  position := guard.destination.map Link.position
  spentOutput := guard.spentOutput
  checkOutput := guard.destination.bind graph.outputChecker?
  verifySignature := setting.verifySignature

end Graph

/-- An action on the books of a transaction that may refuse it. -/
abbrev Judging (Result : Type) := EStateM Refusal Books Result

/-- Stop because of an entry. -/
def Judging.reject {Result : Type} (id : EntryId) (cause : Cause) : Judging Result :=
  throw (.rejected { cause := cause, entry := some id })

/-- Run a program on behalf of an entry. -/
def Judging.authorise (id : EntryId) (action : Booked Unit) : Judging Unit := fun books =>
  match action.run books with
  | .ok () after => .ok () after
  | .error (.fault fault) after =>
      .error (.rejected { cause := .ofFault fault, entry := some id }) after
  | .error (.breach breach) after => .error (.breached breach) after

/-- Run the program of a node, if it has one. -/
def Graph.runGuard (graph : Graph) (setting : Setting) (tally : Tally)
    (index : Nat) (id : EntryId) (entry : Entry) : Judging Unit :=
  match tally.guard? index entry with
  | .error cause => Judging.reject id cause
  | .ok none => pure ()
  | .ok (some guard) =>
      match graph.signatureHash? index with
      | none => Judging.reject id (.internal .missingSignatureHash)
      | some signatureHash =>
          Judging.authorise id
            (Machine.authorise (graph.guardContext setting id signatureHash guard)
              guard.program entry.arguments)

def Graph.runGuards (graph : Graph) (setting : Setting) (tally : Tally) :
    List (Nat × EntryId × Entry) → Judging Unit
  | [] => pure ()
  | (index, id, entry) :: nodes => do
      graph.runGuard setting tally index id entry
      graph.runGuards setting tally nodes

end EntryLedger
