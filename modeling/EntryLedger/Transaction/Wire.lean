import EntryLedger.Transaction

/-!
# The wire format

Integers take one byte below 251; above that a marker byte tells how many
little-endian bytes follow.  Lists and byte strings are preceded by their
length, choices by the number of the case, and optional parts by one byte.
The encoder always takes the shortest form of an integer, while the decoder
takes any form.
-/

namespace EntryLedger.Wire

/-! ### Encoding -/

/-- An integer in its shortest form. -/
def integer (number : UInt64) : Bytes :=
  let value := number.toNat
  if value < 251 then [UInt8.ofNat value]
  else if value < 0x10000 then 0xfb :: Bytes.littleEndian 2 value
  else if value < 0x100000000 then 0xfc :: Bytes.littleEndian 4 value
  else 0xfd :: Bytes.littleEndian 8 value

/-- The length of a list. -/
def count (length : Nat) : Bytes :=
  integer (UInt64.ofNat length)

def bytes (content : Bytes) : Bytes :=
  count content.length ++ content

/-- A list whose items are encoded one after the other. -/
def list {Item : Type} (encode : Item → Bytes) (items : List Item) : Bytes :=
  count items.length ++ items.flatMap encode

def value (content : Value) : Bytes :=
  content.asset.bytes ++ integer content.amount

def program (content : Program) : Bytes :=
  integer content.version ++ bytes content.code

def definition (content : Definition) : Bytes :=
  program content.program ++ bytes content.data

def optionalDefinition : Option Definition → Bytes
  | none => [0]
  | some content => 1 :: definition content

def input : Input → Bytes
  | .spend spend =>
      integer 0 ++ spend.sourceId.bytes ++ integer spend.sourcePosition ++
        value spend.value ++ program spend.program ++ list bytes spend.arguments
  | .issuance issuance =>
      integer 1 ++ bytes issuance.nonce ++ value issuance.value ++
        optionalDefinition issuance.definition ++ list bytes issuance.arguments
  | .coinbase coinbase => integer 2 ++ value coinbase.value ++ bytes coinbase.data

def payment (content : Payment) : Bytes :=
  value content.value ++ program content.program

def transaction (content : Transaction) : Bytes :=
  integer content.version ++ integer content.timeRange.earliest ++
    integer content.timeRange.latest ++ integer content.fee ++
    list input content.inputs ++ list payment content.outputs

/-! ### Decoding -/

/-- Reads the front of a byte string and leaves the rest. -/
abbrev Reader (Result : Type) := StateT Bytes (Except EncodingFlaw) Result

/-- Exactly the next bytes. -/
def take (length : Nat) : Reader Bytes := fun rest =>
  let front := rest.take length
  if front.length = length then .ok (front, rest.drop length) else .error .unexpectedEnd

def readByte : Reader UInt8
  | [] => .error .unexpectedEnd
  | byte :: rest => .ok (byte, rest)

/-- An integer of a fixed number of bytes. -/
def readFixed (width : Nat) : Reader UInt64 := do
  return UInt64.ofNat (Bytes.ofLittleEndian (← take width))

/-- An integer in any form. -/
def readInteger : Reader UInt64 := do
  let marker ← readByte
  if marker.toNat < 251 then return marker.toUInt64
  else if marker = 0xfb then readFixed 2
  else if marker = 0xfc then readFixed 4
  else if marker = 0xfd then readFixed 8
  else if marker = 0xfe then throw .wideInteger
  else throw .reservedMarker

def readBytes : Reader Bytes := do
  take (← readInteger).toNat

/-- A given number of items. -/
def readItems {Item : Type} (read : Reader Item) : Nat → Reader (List Item)
  | 0 => return []
  | length + 1 => do
      let item ← read
      let items ← readItems read length
      return item :: items

def readList {Item : Type} (read : Reader Item) : Reader (List Item) := do
  readItems read (← readInteger).toNat

def readDigest : Reader Digest := do
  match Digest.ofBytes? (← take 32) with
  | some digest => return digest
  | none => throw .unexpectedEnd

def readValue : Reader Value := do
  let asset ← readDigest
  let amount ← readInteger
  return { asset := asset, amount := amount }

def readProgram : Reader Program := do
  let version ← readInteger
  let code ← readBytes
  return { version := version, code := code }

def readDefinition : Reader Definition := do
  let program ← readProgram
  let data ← readBytes
  return { program := program, data := data }

def readOptionalDefinition : Reader (Option Definition) := do
  let byte ← readByte
  if byte = 0 then return none
  else if byte = 1 then return some (← readDefinition)
  else throw (.unknownOption byte)

/-- The number of a case, which has to fit 32 bits. -/
def readVariant : Reader UInt64 := do
  let number ← readInteger
  if 0x100000000 ≤ number.toNat then throw (.wideVariant number)
  return number

/-- A spend after its case number. -/
def readSpend : Reader SpendInput := do
  let sourceId ← readDigest
  let sourcePosition ← readInteger
  let value ← readValue
  let program ← readProgram
  let arguments ← readList readBytes
  return { sourceId := sourceId, sourcePosition := sourcePosition, value := value
           program := program, arguments := arguments }

/-- An issuance after its case number. -/
def readIssuance : Reader IssuanceInput := do
  let nonce ← readBytes
  let value ← readValue
  let definition ← readOptionalDefinition
  let arguments ← readList readBytes
  return { nonce := nonce, value := value, definition := definition
           arguments := arguments }

/-- A coinbase after its case number. -/
def readCoinbase : Reader CoinbaseInput := do
  let value ← readValue
  let data ← readBytes
  return { value := value, data := data }

def readInput : Reader Input := do
  let number ← readVariant
  if number = 0 then return .spend (← readSpend)
  else if number = 1 then return .issuance (← readIssuance)
  else if number = 2 then return .coinbase (← readCoinbase)
  else throw (.unknownVariant number)

def readPayment : Reader Payment := do
  let value ← readValue
  let program ← readProgram
  return { value := value, program := program }

def readTransaction : Reader Transaction := do
  let version ← readInteger
  let earliest ← readInteger
  let latest ← readInteger
  let fee ← readInteger
  let inputs ← readList readInput
  let outputs ← readList readPayment
  return { version := version
           timeRange := { earliest := earliest, latest := latest }
           fee := fee, inputs := inputs, outputs := outputs }

end EntryLedger.Wire

namespace EntryLedger.Transaction

/-- The encoded form of a transaction. -/
def encode (transaction : Transaction) : Bytes :=
  Wire.transaction transaction

/-- Decode a whole byte string. -/
def decode (bytes : Bytes) : Except EncodingFlaw Transaction :=
  match Wire.readTransaction.run bytes with
  | .error flaw => .error flaw
  | .ok (transaction, []) => .ok transaction
  | .ok (_, _ :: _) => .error .leftover

end EntryLedger.Transaction
