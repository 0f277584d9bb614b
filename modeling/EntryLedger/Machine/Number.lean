import EntryLedger.Bytes

/-!
# Numbers and truth values on the stack

A number is a two's complement word of 64 bits, written in little-endian
order without trailing zero bytes; zero is the empty item.  Shorter items are
extended by zero bytes, and longer ones are not numbers.  An item is false
when all of its bytes are zero.
-/

namespace EntryLedger.Number

/-- Whether a number fits the 64-bit word. -/
def fits (number : Int) : Bool :=
  decide (-0x8000000000000000 ≤ number ∧ number < 0x8000000000000000)

/-- A byte string without its trailing zero bytes. -/
def trim : Bytes → Bytes
  | [] => []
  | byte :: rest =>
      match trim rest with
      | [] => if byte = 0 then [] else [byte]
      | kept => byte :: kept

/-- The shortest item that denotes a number. -/
def write (number : Int) : Bytes :=
  trim (Bytes.littleEndian 8 (number % 0x10000000000000000).toNat)

/-- The number that an item denotes, unless the item is too long. -/
def read (item : Bytes) : Option Int :=
  if item.length ≤ 8 then
    let word := Bytes.ofLittleEndian item
    if word < 0x8000000000000000 then some word else some (word - 0x10000000000000000)
  else none

/-- An item is true when some byte of it is not zero. -/
def truth (item : Bytes) : Bool :=
  item.any (· ≠ 0)

/-- The item of a truth value. -/
def ofTruth (value : Bool) : Bytes :=
  if value then [1] else []

@[simp]
theorem truth_ofTruth (value : Bool) : truth (ofTruth value) = value := by
  cases value <;> rfl

theorem ofTruth_inj {first second : Bool} : ofTruth first = ofTruth second ↔ first = second :=
  ⟨fun same => by rw [← truth_ofTruth first, same, truth_ofTruth], congrArg ofTruth⟩

theorem length_ofTruth_le (value : Bool) : (ofTruth value).length ≤ 1 := by
  cases value <;> decide

/-- A ledger quantity as a number, if it fits. -/
def ofQuantity (quantity : UInt64) : Option Int :=
  if quantity.toNat < 0x8000000000000000 then some quantity.toNat else none

end EntryLedger.Number
