import EntryLedger.Digest

/-!
# The canonical layout of hashed fields

Identities are hashes of a layout of fields that does not depend on the wire
encoding.  Integers take eight little-endian bytes, byte strings are preceded
by their length, digests stand as they are, and a layout may open with a tag
that separates its domain from all others.
-/

namespace EntryLedger.Layout

/-- An integer field. -/
def word (number : UInt64) : Bytes :=
  Bytes.littleEndian 8 number.toNat

/-- A count or length as an integer field. -/
def count (number : Nat) : Bytes :=
  word (UInt64.ofNat number)

/-- A byte string field, preceded by its length. -/
def field (bytes : Bytes) : Bytes :=
  count bytes.length ++ bytes

/-- The opening of a layout that belongs to the named domain. -/
def tag (name : String) : Bytes :=
  Bytes.ofString name ++ Bytes.ofString ":"

@[simp]
theorem length_word (number : UInt64) : (word number).length = 8 := by
  simp [word]

theorem word_inj {first second : UInt64} (equal : word first = word second) :
    first = second := by
  have firstFits : first.toNat < Bytes.capacity 8 := first.toNat_lt
  have secondFits : second.toNat < Bytes.capacity 8 := second.toNat_lt
  exact UInt64.toNat_inj.mp (Bytes.littleEndian_inj firstFits secondFits equal)

end EntryLedger.Layout
