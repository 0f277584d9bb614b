import EntryLedger.Graph.Entry

/-!
# Entry graphs

A graph is built from a list of entries and a list of results.  Building
checks every reference once: sources point to earlier entries, destinations to
other entries, and both to slots that exist.  It then computes the identities
of the entries and of the transaction.
-/

namespace EntryLedger

/-- The bounds on the block time of a transaction; zero leaves a side open. -/
structure TimeRange where
  earliest : UInt64
  latest : UInt64
  deriving DecidableEq

namespace TimeRange

def isInverted (range : TimeRange) : Bool :=
  decide (0 < range.earliest ∧ 0 < range.latest ∧ range.latest < range.earliest)

def contains (range : TimeRange) (time : UInt64) : Bool :=
  decide ((range.earliest = 0 ∨ range.earliest ≤ time) ∧
    (range.latest = 0 ∨ time ≤ range.latest))

end TimeRange

/-- What a transaction declares about itself. -/
structure Header where
  version : UInt64
  /-- The encoded length, which the identity does not commit to. -/
  size : UInt64
  timeRange : TimeRange
  /-- The native amount that the transaction leaves to the block. -/
  fee : UInt64
  deriving DecidableEq

/-- What is wrong with a reference. -/
inductive ReferenceFlaw where
  | sourceNotEarlier
  | sourceCannotEmit
  | destinationOutOfRange
  | destinationCannotAccept
  | resultKind
  | resultOutOfRange
  deriving DecidableEq

def ReferenceFlaw.message : ReferenceFlaw → String
  | .sourceNotEarlier => "source does not point to an earlier entry"
  | .sourceCannotEmit => "source cannot emit value"
  | .destinationOutOfRange => "destination out of range"
  | .destinationCannotAccept => "destination cannot accept value"
  | .resultKind => "result is not an output or retirement"
  | .resultOutOfRange => "result out of range"

/-- Why bytes are not an encoded transaction, or why a transaction is too
large for a graph. -/
inductive EncodingFlaw where
  | unexpectedEnd
  /-- An integer of more than 64 bits is announced. -/
  | wideInteger
  /-- The marker byte that is set aside for later use. -/
  | reservedMarker
  | wideVariant (number : UInt64)
  | unknownVariant (number : UInt64)
  | unknownOption (byte : UInt8)
  | leftover
  | tooManyParts
  | tooManyEntries (count : Nat)
  | unresolvedEntry
  deriving DecidableEq

def EncodingFlaw.message : EncodingFlaw → String
  | .unexpectedEnd => "io error: unexpected end of file"
  | .wideInteger =>
      "Invalid value (u128 range): you may have a version or configuration disagreement?"
  | .reservedMarker =>
      "\nByte 255 is treated as an extension point; it should not be encoding anything.\n" ++
        "Do you have a mismatched bincode version or configuration?\n"
  | .wideVariant number =>
      s!"Invalid u32 {number.toNat}: you may have a version disagreement?"
  | .unknownVariant number =>
      s!"invalid value: integer `{number.toNat}`, expected variant index 0 <= i < 3"
  | .unknownOption byte => s!"tag for enum is not valid, found {byte.toNat}"
  | .leftover => "Slice had bytes remaining after deserialization"
  | .tooManyParts => "too many inputs and outputs"
  | .tooManyEntries count => s!"{count} entries exceed the arena limit"
  | .unresolvedEntry => "unresolved upstream entry"

/-- Why there is no graph. -/
inductive GraphError where
  | malformedReference (owner : Option Nat) (target : Nat) (flaw : ReferenceFlaw)
  | malformedPosition (owner target : Nat) (position : UInt64)
  | missingDestination (entry : Nat)
  | wrongSize (size limit : UInt64)
  | malformedEncoding (flaw : EncodingFlaw)
  deriving DecidableEq

/-- The owner of a reference as diagnostics show it. -/
def GraphError.ownerText : Option Nat → String
  | none => "None"
  | some owner => s!"Some(EntryIndex({owner}))"

def GraphError.message : GraphError → String
  | .malformedReference owner target flaw =>
      s!"malformed reference from {GraphError.ownerText owner} to entry {target}: " ++
        flaw.message
  | .malformedPosition owner target position =>
      s!"position {position.toNat} out of range on reference from #{owner} to #{target}"
  | .missingDestination entry => s!"entry #{entry} is missing a required destination"
  | .wrongSize size limit =>
      s!"transaction size {size.toNat} outside 1..={limit.toNat}"
  | .malformedEncoding flaw => "malformed encoding: " ++ flaw.message

/-- A checked graph of entries. -/
structure Graph where
  header : Header
  entries : List Entry
  /-- The identity of each entry. -/
  ids : List EntryId
  /-- The places of the outputs and retirements that the transaction makes. -/
  results : List Nat
  /-- The identity of the transaction. -/
  id : Digest

namespace Graph

def maxEntries : Nat :=
  0xffffffff

/-- Check a link to where the value of an entry comes from. -/
def checkSource (entries : List Entry) (owner : Nat) (link : Link) :
    Except GraphError Unit :=
  if owner ≤ link.entry then
    .error (.malformedReference (some owner) link.entry .sourceNotEarlier)
  else
    match entries[link.entry]? with
    | none => .error (.malformedReference (some owner) link.entry .sourceNotEarlier)
    | some target =>
        if target.kind.emits = false then
          .error (.malformedReference (some owner) link.entry .sourceCannotEmit)
        else if target.destinationSlots ≤ link.position.toNat then
          .error (.malformedPosition owner link.entry link.position)
        else .ok ()

/-- Check a link to where the value of an entry goes. -/
def checkDestination (entries : List Entry) (owner : Nat) (link : Link) :
    Except GraphError Unit :=
  match if link.entry = owner then none else entries[link.entry]? with
  | none => .error (.malformedReference (some owner) link.entry .destinationOutOfRange)
  | some target =>
      if target.kind.accepts = false then
        .error (.malformedReference (some owner) link.entry .destinationCannotAccept)
      else if target.sourceSlots ≤ link.position.toNat then
        .error (.malformedPosition owner link.entry link.position)
      else .ok ()

/-- Check all references of an entry. -/
def checkEntry (entries : List Entry) (owner : Nat) (entry : Entry) :
    Except GraphError Unit := do
  if entry.lacksDestination then throw (.missingDestination owner)
  entry.sources.forM (checkSource entries owner)
  entry.destinations.forM (checkDestination entries owner)

/-- Check that a result is an output or a retirement. -/
def checkResult (entries : List Entry) (result : Nat) : Except GraphError Unit :=
  match entries[result]?.map Entry.kind with
  | some .output | some .retirement => .ok ()
  | some _ => .error (.malformedReference none result .resultKind)
  | none => .error (.malformedReference none result .resultOutOfRange)

/-- The identities of entries that follow others whose identities are
known. -/
def idsFrom (known : List EntryId) : List Entry → Option (List EntryId)
  | [] => some known
  | entry :: rest =>
      match entry.id? (known[·]?) with
      | some id => idsFrom (known ++ [id]) rest
      | none => none

/-- The layout of a transaction with the identities of its results. -/
def headerLayout (header : Header) (resultIds : List EntryId) : Bytes :=
  Layout.tag "txheader" ++ Layout.word header.version ++
    Layout.word header.timeRange.earliest ++ Layout.word header.timeRange.latest ++
    Layout.word header.fee ++ Layout.count resultIds.length ++
    resultIds.flatMap Digest.bytes

/-- Check all references and compute all identities. -/
def build (header : Header) (entries : List Entry) (results : List Nat) :
    Except GraphError Graph := do
  if maxEntries < entries.length then
    throw (.malformedEncoding (.tooManyEntries entries.length))
  entries.zipIdx.forM fun (entry, owner) => checkEntry entries owner entry
  results.forM (checkResult entries)
  match idsFrom [] entries with
  | none => throw (.malformedEncoding .unresolvedEntry)
  | some ids =>
      let resultIds := results.filterMap (ids[·]?)
      return { header := header, entries := entries, ids := ids, results := results
               id := Digest.hash (headerLayout header resultIds) }

def entry? (graph : Graph) (index : Nat) : Option Entry :=
  graph.entries[index]?

def idAt? (graph : Graph) (index : Nat) : Option EntryId :=
  graph.ids[index]?

/-- The place of the last entry with an identity. -/
def indexOf? (graph : Graph) (id : EntryId) : Option Nat :=
  (graph.ids.zipIdx.reverse.find? fun entry => entry.1 = id).map Prod.snd

/-- The message that signatures on behalf of an entry sign. -/
def signatureHash? (graph : Graph) (index : Nat) : Option Digest :=
  (graph.idAt? index).map fun id => Digest.hash (id.bytes ++ graph.id.bytes)

/-- The entries with their places and identities. -/
def nodes (graph : Graph) : List (Nat × EntryId × Entry) :=
  (graph.ids.zip graph.entries).mapIdx fun index (id, entry) => (index, id, entry)

/-- Whether some entry is a coinbase. -/
def hasCoinbase (graph : Graph) : Bool :=
  graph.entries.any fun entry => entry.kind = .coinbase

end Graph

end EntryLedger
