import EntryLedger.Bytes
import EntryLedger.Text.Quote

/-!
# Hexadecimal text

Every byte is written as two lower-case digits.  Reading works on the UTF-8
bytes of a text, accepts digits of either case, and reports an odd number of
digits before it looks at any digit.
-/

namespace EntryLedger

/-- Why a text is not the hexadecimal form of the wanted bytes. -/
inductive HexError where
  /-- The text has an odd number of bytes. -/
  | oddLength
  /-- The byte at a position is no hexadecimal digit. -/
  | invalidCharacter (byte : UInt8) (position : Nat)
  /-- The text is well formed but does not have the wanted length. -/
  | wrongLength
  deriving DecidableEq, Repr

/-- The text of a failure, which shows an offending byte as the character
with that number. -/
def HexError.message : HexError → String
  | .oddLength => "Odd number of digits"
  | .invalidCharacter byte position =>
      s!"Invalid character {Quote.character (Char.ofNat byte.toNat)} at position {position}"
  | .wrongLength => "Invalid string length"

namespace Hex

/-- The lower-case digit of a number below sixteen. -/
def digit (number : Nat) : Char :=
  if number < 10 then Char.ofNat (48 + number) else Char.ofNat (87 + number)

def ofByte (byte : UInt8) : List Char :=
  [digit (byte.toNat / 16), digit (byte.toNat % 16)]

def encode (bytes : Bytes) : String :=
  String.ofList (bytes.flatMap ofByte)

def digitValue (byte : UInt8) : Option Nat :=
  let code := byte.toNat
  if 48 ≤ code ∧ code ≤ 57 then some (code - 48)
  else if 97 ≤ code ∧ code ≤ 102 then some (code - 87)
  else if 65 ≤ code ∧ code ≤ 70 then some (code - 55)
  else none

/-- Read pairs of digits, naming the first byte that is not one.  `position`
counts the bytes already read. -/
def decodePairs (position : Nat) : Bytes → Except HexError Bytes
  | high :: low :: rest =>
      match digitValue high, digitValue low with
      | none, _ => .error (.invalidCharacter high position)
      | some _, none => .error (.invalidCharacter low (position + 1))
      | some highValue, some lowValue =>
          (decodePairs (position + 2) rest).map
            (UInt8.ofNat (16 * highValue + lowValue) :: ·)
  | [_] => .error .oddLength
  | [] => .ok []

def decode (text : String) : Except HexError Bytes :=
  let bytes := Bytes.ofString text
  if bytes.length % 2 = 1 then .error .oddLength else decodePairs 0 bytes

/-- A text without one leading `0x`. -/
def withoutMark (text : String) : String :=
  match text.toList with
  | '0' :: 'x' :: rest => String.ofList rest
  | _ => text

end Hex

end EntryLedger
