/-!
# Decimal digits

A run of digits denotes a number in base ten; leading zeros change nothing.
-/

namespace EntryLedger.Decimal

/-- The number below ten that a digit denotes. -/
def digitValue (digit : Char) : Nat :=
  digit.toNat - 48

/-- The number that digits denote, the most significant first. -/
def value (digits : List Char) : Nat :=
  digits.foldl (fun number digit => 10 * number + digitValue digit) 0

/-- The number that a text of at least one digit denotes. -/
def value? (digits : List Char) : Option Nat :=
  if digits ≠ [] ∧ digits.all Char.isDigit then some (value digits) else none

end EntryLedger.Decimal
