import EntryLedger.Machine.Number
import EntryLedger.Machine.Opcode
import EntryLedger.Machine.StackEffect

/-!
# Combining byte strings byte by byte

Conjunction stops at the end of the shorter string; disjunction and exclusive
disjunction extend it by zero bytes.
-/

namespace EntryLedger.Bitwise

/-- A string that is extended by zero bytes up to a length. -/
def padded (length : Nat) (bytes : Bytes) : Bytes :=
  bytes ++ List.replicate (length - bytes.length) 0

/-- Combine two strings, extending the shorter one by zero bytes. -/
def zipPadded (combine : UInt8 → UInt8 → UInt8) (left right : Bytes) : Bytes :=
  List.zipWith combine (padded right.length left) (padded left.length right)

/-- What a bytewise operation does to the stack. -/
def effect : Bitwise → List Bytes → StackEffect
  | .invert, first :: below => .push below [first.map fun byte => ~~~byte]
  | .and, second :: first :: below =>
      .push below [List.zipWith (· &&& ·) first second]
  | .or, second :: first :: below => .push below [zipPadded (· ||| ·) first second]
  | .xor, second :: first :: below => .push below [zipPadded (· ^^^ ·) first second]
  | .equal, second :: first :: below =>
      .push below [Number.ofTruth (first == second)]
  | .equalVerify, second :: first :: below => .demand (first == second) below
  | _, stack => .missing stack

end EntryLedger.Bitwise
