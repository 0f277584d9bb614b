import EntryLedger.Asset

/-!
# Entries

A transaction is a graph of entries through which value flows.  Issuances,
spends and coinbases bring value in, muxes mix it, and outputs and retirements
take it out.  Entries refer to one another by their place in the graph, and
every reference names the slot at the other end and the value that passes.

The identity of an entry is the hash of its layout.  Arguments, definitions
and references to where value goes are left out, so that signatures can
commit to the identity.
-/

namespace EntryLedger

/-- One end of a flow of value between two entries. -/
structure Link where
  /-- The place of the other entry. -/
  entry : Nat
  value : Value
  /-- The slot of the other entry. -/
  position : UInt64
  deriving DecidableEq

/-- New units of an asset. -/
structure Issuance where
  nonceHash : Digest
  value : Value
  destination : Option Link
  definition : Option Definition
  arguments : List Bytes
  ordinal : UInt64
  deriving DecidableEq

/-- An earlier output that is consumed. -/
structure Spend where
  spentOutput : Digest
  program : Program
  destination : Option Link
  arguments : List Bytes
  ordinal : UInt64
  deriving DecidableEq

/-- Value that a later transaction can spend. -/
structure Output where
  source : Link
  program : Program
  ordinal : UInt64
  deriving DecidableEq

/-- Value that is destroyed. -/
structure Retirement where
  source : Link
  ordinal : UInt64
  deriving DecidableEq

/-- A point where value is mixed. -/
structure Mux where
  sources : List Link
  program : Program
  destinations : List Link
  arguments : List Bytes
  deriving DecidableEq

/-- The reward of a block. -/
structure Coinbase where
  destination : Option Link
  data : Bytes
  ordinal : UInt64
  deriving DecidableEq

/-- A node of the graph. -/
inductive Entry where
  | issuance (issuance : Issuance)
  | spend (spend : Spend)
  | output (output : Output)
  | mux (mux : Mux)
  | coinbase (coinbase : Coinbase)
  | retirement (retirement : Retirement)
  deriving DecidableEq

inductive EntryKind where
  | issuance | spend | output | mux | coinbase | retirement
  deriving DecidableEq

namespace EntryKind

/-- The name of a kind, which its identities commit to. -/
def name : EntryKind → String
  | .issuance => "issuance1"
  | .spend => "spend1"
  | .output => "output1"
  | .mux => "mux1"
  | .coinbase => "coinbase1"
  | .retirement => "retirement1"

/-- Whether value can come from entries of a kind. -/
def emits : EntryKind → Bool
  | .coinbase | .issuance | .spend | .mux => true
  | .output | .retirement => false

/-- Whether value can go to entries of a kind. -/
def accepts : EntryKind → Bool
  | .output | .retirement | .mux => true
  | .coinbase | .issuance | .spend => false

end EntryKind

/-- The digest that names an entry. -/
abbrev EntryId := Digest

namespace Entry

def kind : Entry → EntryKind
  | .issuance _ => .issuance
  | .spend _ => .spend
  | .output _ => .output
  | .mux _ => .mux
  | .coinbase _ => .coinbase
  | .retirement _ => .retirement

/-- Where the value of an entry comes from. -/
def sources : Entry → List Link
  | .output body => [body.source]
  | .retirement body => [body.source]
  | .mux body => body.sources
  | .issuance _ | .spend _ | .coinbase _ => []

/-- Where the value of an entry goes. -/
def destinations : Entry → List Link
  | .issuance body => body.destination.toList
  | .spend body => body.destination.toList
  | .coinbase body => body.destination.toList
  | .mux body => body.destinations
  | .output _ | .retirement _ => []

/-- Whether an entry that has to have one destination lacks it. -/
def lacksDestination : Entry → Bool
  | .issuance body => body.destination.isNone
  | .spend body => body.destination.isNone
  | .coinbase body => body.destination.isNone
  | .mux _ | .output _ | .retirement _ => false

/-- The number of slots that value can come from. -/
def destinationSlots : Entry → Nat
  | .mux body => body.destinations.length
  | _ => 1

/-- The number of slots that value can go to. -/
def sourceSlots : Entry → Nat
  | .mux body => body.sources.length
  | _ => 1

def arguments : Entry → List Bytes
  | .issuance body => body.arguments
  | .spend body => body.arguments
  | .mux body => body.arguments
  | .output _ | .coinbase _ | .retirement _ => []

/-- The place of an entry among the inputs or outputs; a mux has none. -/
def ordinal? : Entry → Option UInt64
  | .issuance body => some body.ordinal
  | .spend body => some body.ordinal
  | .output body => some body.ordinal
  | .retirement body => some body.ordinal
  | .coinbase body => some body.ordinal
  | .mux _ => none

/-- The layout of a value and of the slot that it comes from. -/
def sourceLayout (sourceId : EntryId) (value : Value) (position : UInt64) : Bytes :=
  sourceId.bytes ++ value.asset.bytes ++ Layout.word value.amount ++ Layout.word position

/-- The layout of an output. -/
def outputLayout (sourceId : EntryId) (value : Value) (position : UInt64)
    (program : Program) : Bytes :=
  sourceLayout sourceId value position ++ Layout.word program.version ++
    Layout.field program.code

/-- The layout of a link to an entry whose identity is known. -/
def linkLayout? (idAt : Nat → Option EntryId) (link : Link) : Option Bytes :=
  (idAt link.entry).map fun sourceId => sourceLayout sourceId link.value link.position

/-- The layouts of several links, one after the other. -/
def linksLayout? (idAt : Nat → Option EntryId) : List Link → Option Bytes
  | [] => some []
  | link :: links => do
      let first ← linkLayout? idAt link
      let rest ← linksLayout? idAt links
      return first ++ rest

/-- The layout of an entry, when the entries that its value comes from are
known. -/
def layout? (idAt : Nat → Option EntryId) : Entry → Option Bytes
  | .issuance body =>
      some (body.nonceHash.bytes ++ body.value.asset.bytes ++
        Layout.word body.value.amount ++ Layout.word body.ordinal)
  | .spend body => some (body.spentOutput.bytes ++ Layout.word body.ordinal)
  | .output body =>
      (idAt body.source.entry).map fun sourceId =>
        outputLayout sourceId body.source.value body.source.position body.program
  | .retirement body => do
      let source ← linkLayout? idAt body.source
      return source ++ Layout.word body.ordinal
  | .mux body => do
      let sources ← linksLayout? idAt body.sources
      return Layout.count body.sources.length ++ sources ++
        Layout.word body.program.version ++ Layout.field body.program.code
  | .coinbase body =>
      some (Layout.field body.data ++ Layout.word body.ordinal)

/-- The layout that binds a body to its kind. -/
def wrapLayout (kind : EntryKind) (body : Digest) : Bytes :=
  Layout.tag "entryid" ++ Layout.field (Bytes.ofString kind.name) ++ body.bytes

/-- The identity of an entry of some kind with some layout. -/
def idOfLayout (kind : EntryKind) (layout : Bytes) : EntryId :=
  Digest.hash (wrapLayout kind (Digest.hash layout))

/-- The identity of an entry, when the entries that its value comes from are
known. -/
def id? (idAt : Nat → Option EntryId) (entry : Entry) : Option EntryId :=
  (entry.layout? idAt).map (idOfLayout entry.kind)

end Entry

/-- The identity of an output, which the output itself and whoever spends it
compute alike. -/
def outputId (sourceId : EntryId) (value : Value) (position : UInt64)
    (program : Program) : Digest :=
  Entry.idOfLayout .output (Entry.outputLayout sourceId value position program)

end EntryLedger
