import EntryLedger.Machine.Instruction
import EntryLedger.Machine.StackEffect

/-!
# Joining and cutting byte strings

Offsets and lengths are numbers on the stack.  A cut that does not lie within
the string leaves the operands where they are.
-/

namespace EntryLedger.Splice

/-- A number on the stack as an offset or a length. -/
def byteCount (operand : Bytes) : Except Fault Nat :=
  match Number.read operand with
  | none => .error .badValue
  | some number => if number < 0 then .error .rangeError else .ok number.toNat

/-- The part of a string that starts at an offset and has a length. -/
def cut (text : Bytes) (offset length : Nat) : Except Fault Bytes :=
  if text.length < offset + length then .error .rangeError
  else .ok ((text.drop offset).take length)

/-- Replace operands by a part of a string, or leave them all when there is
no such part. -/
def pushPart (stack below : List Bytes) (part : Except Fault Bytes) : StackEffect :=
  match part with
  | .ok item => .push below [item]
  | .error fault => .fail fault stack

/-- What joining or cutting does to the stack. -/
def effect : Splice → List Bytes → StackEffect
  | .concat, second :: first :: below => .push below [first ++ second]
  | .concatPush, second :: first :: below => .push below [first ++ Code.push second]
  | .size, first :: below => .push (first :: below) [Number.write first.length]
  | .substring, second :: first :: text :: below =>
      pushPart (second :: first :: text :: below) below do
        let length ← byteCount second
        let offset ← byteCount first
        cut text offset length
  | .left, operand :: text :: below =>
      pushPart (operand :: text :: below) below do
        let length ← byteCount operand
        cut text 0 length
  | .right, operand :: text :: below =>
      pushPart (operand :: text :: below) below do
        let length ← byteCount operand
        if text.length < length then .error .rangeError
        else cut text (text.length - length) length
  | _, stack => .missing stack

end EntryLedger.Splice
