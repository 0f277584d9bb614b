import EntryLedger.Ledger
import EntryLedger.Text.Json.Record

/-!
# Snapshots of a ledger

A snapshot lists the outputs of a ledger by their identities and its
definitions by the assets that they define, both in ascending order.  A ledger
is rebuilt from a snapshot by recording everything in the order of the lists.
-/

namespace EntryLedger

/-- The contents of a ledger as plain lists. -/
structure Snapshot where
  outputs : List (Digest × Value)
  definitions : List Definition
  deriving DecidableEq

def Ledger.snapshot (ledger : Ledger) : Snapshot where
  outputs := ledger.outputs.entries
  definitions := ledger.definitions.entries.map Prod.snd

/-- The ledger that a snapshot describes. -/
def Ledger.ofSnapshot (snapshot : Snapshot) : Ledger :=
  snapshot.definitions.foldl Ledger.insertDefinition
    (snapshot.outputs.foldl (fun ledger (id, value) => ledger.insertOutput id value)
      Ledger.empty)

namespace Snapshot

/-! ### Reading -/

def digest? (value : JsonValue) : Option Digest :=
  value.bytes?.bind Digest.ofBytes?

def value? (value : JsonValue) : Option Value := do
  match ← value.record? ["asset_id", "amount"] with
  | [some asset, some amount] =>
      return { asset := ← digest? asset, amount := ← amount.word? }
  | _ => none

def output? (value : JsonValue) : Option (Digest × Value) := do
  let (id, content) ← value.pair?
  return (← digest? id, ← value? content)

def program? (value : JsonValue) : Option Program := do
  match ← value.record? ["vm_version", "code"] with
  | [some version, some code] =>
      return { version := ← version.word?, code := ← code.bytes? }
  | _ => none

def definition? (value : JsonValue) : Option Definition := do
  match ← value.record? ["issuance_program", "data"] with
  | [some program, some data] =>
      return { program := ← program? program, data := ← data.bytes? }
  | _ => none

/-- Read a snapshot from a value. -/
def ofJson? (value : JsonValue) : Option Snapshot := do
  match ← value.record? ["outputs", "asset_definitions"] with
  | [outputs, definitions] =>
      return {
        outputs := ← JsonValue.orElse (JsonValue.list? output?) [] outputs
        definitions := ← JsonValue.orElse (JsonValue.list? definition?) [] definitions }
  | _ => none

def ofText? (text : String) : Option Snapshot :=
  (JsonValue.ofText? text).bind ofJson?

/-! ### Writing -/

def valueText (value : Value) : String :=
  JsonValue.objectText [("asset_id", JsonValue.bytesText value.asset.bytes),
    ("amount", toString value.amount.toNat)]

def programText (program : Program) : String :=
  JsonValue.objectText [("vm_version", toString program.version.toNat),
    ("code", JsonValue.bytesText program.code)]

def definitionText (definition : Definition) : String :=
  JsonValue.objectText [("issuance_program", programText definition.program),
    ("data", JsonValue.bytesText definition.data)]

def text (snapshot : Snapshot) : String :=
  JsonValue.objectText [
    ("outputs", JsonValue.arrayText (snapshot.outputs.map fun (id, value) =>
      JsonValue.arrayText [JsonValue.bytesText id.bytes, valueText value])),
    ("asset_definitions", JsonValue.arrayText (snapshot.definitions.map definitionText))]

end Snapshot

end EntryLedger
