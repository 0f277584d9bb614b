import EntryLedger.Bytes.Hex
import EntryLedger.Digest.Blake3

/-!
# Digests

A digest is a string of exactly 32 bytes.  Digests name assets, entries,
outputs and transactions.  They are ordered like the big-endian numbers that
their bytes spell.
-/

namespace EntryLedger

/-- A 256-bit hash value. -/
structure Digest where
  bytes : Bytes
  length_eq : bytes.length = 32
  deriving DecidableEq

namespace Digest

/-- Thirty-two bytes as a digest. -/
def ofBytes? (bytes : Bytes) : Option Digest :=
  if length_eq : bytes.length = 32 then some ⟨bytes, length_eq⟩ else none

/-- The digest all of whose bytes are `byte`. -/
def filled (byte : UInt8) : Digest :=
  ⟨List.replicate 32 byte, by simp⟩

def zero : Digest :=
  filled 0

instance : Inhabited Digest := ⟨zero⟩

def hash (bytes : Bytes) : Digest :=
  ⟨Blake3.hash bytes, Blake3.length_hash bytes⟩

/-- The number that the bytes spell, most significant first. -/
def rank (digest : Digest) : Nat :=
  Bytes.ofLittleEndian digest.bytes.reverse

def precedes (first second : Digest) : Bool :=
  Bytes.precedes first.bytes second.bytes

/-- The 64 hexadecimal digits of a digest. -/
def hex (digest : Digest) : String :=
  Hex.encode digest.bytes

/-- The full text of a digest. -/
def text (digest : Digest) : String :=
  "0x" ++ digest.hex

/-- The first four bytes of a digest under a name, for diagnostics. -/
def brief (name : String) (digest : Digest) : String :=
  name ++ "(0x" ++ Hex.encode (digest.bytes.take 4) ++ ")"

/-- Read a digest from 64 hexadecimal digits with an optional `0x` mark. -/
def ofHex (text : String) : Except HexError Digest := do
  let bytes ← Hex.decode (Hex.withoutMark text)
  match ofBytes? bytes with
  | some digest => .ok digest
  | none => .error .wrongLength

@[ext]
theorem ext {first second : Digest} (equal : first.bytes = second.bytes) :
    first = second := by
  cases first
  cases second
  cases equal
  rfl

@[simp]
theorem length_bytes (digest : Digest) : digest.bytes.length = 32 :=
  digest.length_eq

@[simp]
theorem ofBytes?_bytes (digest : Digest) : ofBytes? digest.bytes = some digest := by
  simp [ofBytes?]

/-- Digests are ordered by their ranks. -/
theorem precedes_iff_rank_lt {first second : Digest} :
    first.precedes second = true ↔ first.rank < second.rank :=
  Bytes.precedes_iff (by simp)

/-- Distinct digests have distinct ranks. -/
theorem rank_inj {first second : Digest} (equal : first.rank = second.rank) :
    first = second := by
  have firstBack := Bytes.littleEndian_ofLittleEndian first.bytes.reverse
  have secondBack := Bytes.littleEndian_ofLittleEndian second.bytes.reverse
  have sameRank : Bytes.ofLittleEndian first.bytes.reverse =
      Bytes.ofLittleEndian second.bytes.reverse := equal
  simp only [List.length_reverse, length_bytes] at firstBack secondBack
  rw [sameRank, secondBack] at firstBack
  exact ext (List.reverse_inj.mp firstBack).symm

end Digest

/-- The first 20 bytes of the hash, which name a public key. -/
def hash160 (bytes : Bytes) : Bytes :=
  (Digest.hash bytes).bytes.take 20

end EntryLedger
