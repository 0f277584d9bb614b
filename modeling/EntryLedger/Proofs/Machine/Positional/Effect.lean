import EntryLedger.Machine.Machine
import EntryLedger.Proofs.Machine.Positional.Stack

/-!
# Operations by position

Here the operations on the data stack reach into a stack whose last item is the top.
They do not look for operands in a pattern: what they read, take, move and copy is at
positions that they compute, and it is up to them and to the number of items that they
were promised that something is there.
-/

namespace EntryLedger

open Access

namespace StackEffect

/-- Fail and leave a stack whose last item is the top. -/
def refuse (items : List Bytes) (fault : Fault) : StackEffect :=
  fail fault items.reverse

@[simp]
theorem refuse_reverse (stack : List Bytes) (fault : Fault) :
    refuse stack.reverse fault = fail fault stack := by
  rw [refuse, List.reverse_reverse]

end StackEffect

open StackEffect

namespace Access

/-- The value of a computation that may fail and has nothing to do with positions. -/
def attempt {Early Value : Type} (refuse : Fault → Early) :
    Except Fault Value → Access Early Value
  | .ok value => .ok value
  | .error fault => early (refuse fault)

end Access

namespace Shuffle

/-- Push copies of some items at some depth below the top. -/
def copy (items : List Bytes) (depth count : Nat) : Access StackEffect StackEffect := do
  let copies ← copied (refuse items) items depth count
  return .push items.reverse copies

/-- The index operand on top, which has to be that of an item below it. -/
def index (items : List Bytes) : Access StackEffect Nat := do
  let number ← peekNumber (refuse items) items 0
  if number < 0 then early (refuse items .badValue)
  else
    let needed ← checkedSum number.toNat 2 (refuse items .dataStackUnderflow)
    if items.length < needed then early (refuse items .dataStackUnderflow)
    else return number.toNat

/-- What a move or copy does to a stack. -/
def byPosition (shuffle : Shuffle) (items : List Bytes) : Access StackEffect StackEffect :=
  match shuffle with
  | .drop2 => do
      let (_, items) ← pop (refuse items) items
      let (_, items) ← pop (refuse items) items
      return .leave items.reverse
  | .dup2 => copy items 0 2
  | .dup3 => copy items 0 3
  | .over2 => copy items 2 2
  | .rot2 => do
      let first ← difference items.length 6
      let last ← difference items.length 4
      let (moved, items) ← drain items first last
      return .leave (items ++ moved).reverse
  | .swap2 => do
      let first ← difference items.length 4
      let items ← rotateAt items first 2
      return .leave items.reverse
  | .ifDup => do
      let top ← peek (refuse items) items 0
      if Number.truth top then copy items 0 1 else return .leave items.reverse
  | .depth =>
      if maxSize < items.length then early (refuse items .rangeError)
      else return .push items.reverse [Number.write items.length]
  | .drop => do
      let (_, items) ← pop (refuse items) items
      return .leave items.reverse
  | .dup => copy items 0 1
  | .nip => do
      let position ← difference items.length 2
      let (_, items) ← removeAt items position
      return .leave items.reverse
  | .over => copy items 1 1
  | .pick => do
      let index ← index items
      let (_, items) ← pop (refuse items) items
      copy items index 1
  | .roll => do
      let index ← index items
      let (_, items) ← pop (refuse items) items
      let last ← difference items.length 1
      let position ← difference last index
      let (item, items) ← removeAt items position
      return .leave (items ++ [item]).reverse
  | .rot => do
      let first ← difference items.length 3
      let items ← rotateAt items first 1
      return .leave items.reverse
  | .swap => do
      let top ← difference items.length 1
      let next ← difference items.length 2
      let items ← swapAt items top next
      return .leave items.reverse
  | .tuck => do
      let top ← peek (refuse items) items 0
      let toll ← sum Machine.itemCost top.length
      let position ← difference items.length 2
      let items ← insertAt items position top
      return .after toll (.leave items.reverse)

end Shuffle

namespace Splice

/-- The offset or length at some depth below the top. -/
def bytesAt (items : List Bytes) (depth : Nat) : Access StackEffect Nat := do
  let number ← peekNumber (refuse items) items depth
  if number < 0 then early (refuse items .rangeError) else return number.toNat

/-- Whether an item is one of the small numbers that have a push of their own. -/
def isSmall (item : Bytes) : Access StackEffect Bool := do
  if item.length = 1 then
    let byte ← itemAt item 0
    return 1 ≤ byte && byte ≤ 16
  else return false

/-- The shortest encoding that pushes an item. -/
def encoding (item : Bytes) : Access StackEffect Bytes := do
  let room ← sum item.length 5
  if maxSize < room then .error .full
  else if ← isSmall item then
    let byte ← itemAt item 0
    let above ← byteSum 0x51 byte
    let opcode ← byteDifference above 1
    return [opcode]
  else return Code.push item

/-- What joining or cutting does to a stack. -/
def byPosition (splice : Splice) (items : List Bytes) : Access StackEffect StackEffect :=
  match splice with
  | .concat => do
      let (second, items) ← pop (refuse items) items
      let (first, items) ← pop (refuse items) items
      let joined ← extend first second
      return .push items.reverse [joined]
  | .concatPush => do
      let (second, items) ← pop (refuse items) items
      let (first, items) ← pop (refuse items) items
      let encoded ← encoding second
      let joined ← extend first encoded
      return .push items.reverse [joined]
  | .size => do
      let item ← peek (refuse items) items 0
      if maxSize < item.length then early (refuse items .rangeError)
      else return .push items.reverse [Number.write item.length]
  | .substring => do
      let length ← bytesAt items 0
      let offset ← bytesAt items 1
      let last ← checkedSum offset length (refuse items .rangeError)
      let text ← peek (refuse items) items 2
      if text.length < last then early (refuse items .rangeError)
      else
        let (_, items) ← pop (refuse items) items
        let (_, items) ← pop (refuse items) items
        let (text, items) ← pop (refuse items) items
        let part ← slice text offset last
        return .push items.reverse [part]
  | .left => do
      let length ← bytesAt items 0
      let text ← peek (refuse items) items 1
      if text.length < length then early (refuse items .rangeError)
      else
        let (_, items) ← pop (refuse items) items
        let (text, items) ← pop (refuse items) items
        return .push items.reverse [text.take length]
  | .right => do
      let length ← bytesAt items 0
      let text ← peek (refuse items) items 1
      if text.length < length then early (refuse items .rangeError)
      else
        let whole := text.length
        let (_, items) ← pop (refuse items) items
        let (text, items) ← pop (refuse items) items
        let first ← difference whole length
        let part ← slice text first text.length
        return .push items.reverse [part]

end Splice

/-- What a bytewise operation does to a stack.  Only its operands are reached by
position. -/
def Bitwise.byPosition (bitwise : Bitwise) (items : List Bytes) :
    Access StackEffect StackEffect :=
  match bitwise with
  | .invert => do
      let (item, items) ← pop (refuse items) items
      return Bitwise.invert.effect (item :: items.reverse)
  | bitwise => do
      let (second, items) ← pop (refuse items) items
      let (first, items) ← pop (refuse items) items
      return bitwise.effect (second :: first :: items.reverse)

/-! ### Arithmetic -/

section Arithmetic

variable {Early : Type} (refuse : Fault → Early)

/-- The value of a function of one number. -/
def Unary.inWord (function : Unary) (number : Int) : Access Early Int :=
  match function with
  | .halve => Access.shiftRight number 1
  | function => attempt refuse (Number.checked (function.apply number))

/-- The value of a function of two numbers. -/
def Binary.inWord (function : Binary) (left right : Int) : Access Early Int :=
  match function with
  | .mod =>
      if right = 0 then early (refuse .divideByZero)
      else if Number.fits (left.tdiv right) = false then early (refuse .rangeError)
      else
        let remainder := left.tmod right
        if remainder ≠ 0 ∧ decide (remainder < 0) ≠ decide (right < 0) then
          wordSum remainder right
        else return remainder
  | .shiftLeft =>
      if right < 0 then early (refuse .badValue)
      else if left = 0 then return 0
      else if 63 < right then early (refuse .rangeError)
      else do
        let shifted ← Access.shiftLeft left right
        let back ← Access.shiftRight shifted right
        if back = left then return shifted else early (refuse .rangeError)
  | .shiftRight =>
      if right < 0 then early (refuse .badValue)
      else if 63 < right then return if left < 0 then -1 else 0
      else Access.shiftRight left right
  | function => attempt refuse (function.apply left right)

end Arithmetic

namespace Numeric

/-- Take one number. -/
def takeOne (items : List Bytes) (use : Int → List Bytes → Access StackEffect StackEffect) :
    Access StackEffect StackEffect := do
  let (operand, items) ← pop (refuse items) items
  let number ← number (refuse items) operand
  use number items

/-- Read two numbers and only then take them. -/
def readTwo {Value : Type} (items : List Bytes)
    (compute : Int → Int → Access StackEffect Value)
    (use : Value → List Bytes → StackEffect) : Access StackEffect StackEffect := do
  let right ← peekNumber (refuse items) items 0
  let left ← peekNumber (refuse items) items 1
  let value ← compute left right
  let (_, items) ← pop (refuse items) items
  let (_, items) ← pop (refuse items) items
  return use value items

/-- What an arithmetic operation does to a stack. -/
def byPosition (numeric : Numeric) (items : List Bytes) : Access StackEffect StackEffect :=
  match numeric with
  | .unary function =>
      takeOne items fun number items => do
        let value ← function.inWord (refuse items) number
        return .push items.reverse [Number.write value]
  | .isZero =>
      takeOne items fun number items =>
        return .push items.reverse [Number.ofTruth (number = 0)]
  | .isNonzero =>
      takeOne items fun number items =>
        return .push items.reverse [Number.ofTruth (number ≠ 0)]
  | .binary function =>
      readTwo items (function.inWord (refuse items)) fun value items =>
        .push items.reverse [Number.write value]
  | .relation test =>
      readTwo items (fun left right => return test.holds left right) fun value items =>
        .push items.reverse [Number.ofTruth value]
  | .equalVerify =>
      readTwo items (fun left right => return (left = right : Bool)) fun value items =>
        .demand value items.reverse
  | .within => do
      let bound ← peekNumber (refuse items) items 0
      let lowest ← peekNumber (refuse items) items 1
      let number ← peekNumber (refuse items) items 2
      let (_, items) ← pop (refuse items) items
      let (_, items) ← pop (refuse items) items
      let (_, items) ← pop (refuse items) items
      return .push items.reverse [Number.ofTruth (lowest ≤ number && number < bound)]

end Numeric

/-! ### Signatures and the context -/

namespace Attest

/-- What a check of several signatures does to a stack on which two counts are. -/
def signers (verify : SignatureVerifier) (items : List Bytes)
    (keyTotal signatureTotal : Nat) : Access StackEffect StackEffect := do
  let both ← checkedSum keyTotal signatureTotal (refuse items .dataStackUnderflow)
  let needed ← checkedSum both 3 (refuse items .dataStackUnderflow)
  if items.length < needed then early (refuse items .dataStackUnderflow)
  else
    let depth ← sum keyTotal 2
    let message ← peek (refuse items) items depth
    if message.length ≠ messageLength then early (refuse items .badValue)
    else if maxWord < keyCost * keyTotal then early (refuse items .rangeError)
    else
      let (_, items) ← pop (refuse items) items
      let (_, items) ← pop (refuse items) items
      let first ← difference items.length keyTotal
      let (items, keys) ← splitAt items first
      let (message, items) ← pop (refuse items) items
      let first ← difference items.length signatureTotal
      let (items, signatures) ← splitAt items first
      let good := allMatch (fun key signature => verify key message signature) keys signatures
      return .after (keyCost * keyTotal) (judge good signatures items.reverse)

def multisignatureByPosition (verify : SignatureVerifier) (items : List Bytes) :
    Access StackEffect StackEffect := do
  let keyNumber ← peekNumber (refuse items) items 0
  let signatureNumber ← peekNumber (refuse items) items 1
  if keyNumber ≤ 0 ∨ signatureNumber ≤ 0 ∨ keyNumber < signatureNumber then
    early (refuse items .badValue)
  else signers verify items keyNumber.toNat signatureNumber.toNat

/-- What a hash or a signature check does to a stack. -/
def byPosition (verify : SignatureVerifier) (attest : Attest) (items : List Bytes) :
    Access StackEffect StackEffect :=
  match attest with
  | .blake3 => do
      let toll := (← peek (refuse items) items 0).length
      let (item, items) ← pop (refuse items) items
      return .after toll (.push items.reverse [(Digest.hash item).bytes])
  | .hash160 => do
      let toll := (← peek (refuse items) items 0).length
      let (item, items) ← pop (refuse items) items
      let front ← slice (Digest.hash item).bytes 0 20
      return .after toll (.push items.reverse [front])
  | .checkSignature => do
      let message ← peek (refuse items) items 1
      if message.length ≠ messageLength then early (refuse items .badValue)
      else
        let (key, items) ← pop (refuse items) items
        let (message, items) ← pop (refuse items) items
        let (signature, items) ← pop (refuse items) items
        return judge (verify key message signature) [signature] items.reverse
  | .checkMultisignature => multisignatureByPosition verify items

end Attest

namespace Observe

/-- What asking for an output does to a stack. -/
def askByPosition (checker : Option OutputChecker) (items : List Bytes) :
    Access StackEffect StackEffect :=
  match checker with
  | none => early (refuse items .wrongContext)
  | some check => do
      let version ← peekNumber (refuse items) items 1
      let assetItem ← peek (refuse items) items 2
      let assetId ← match Digest.ofBytes? assetItem with
        | some assetId => pure assetId
        | none => early (refuse items .badValue)
      let amount ← peekNumber (refuse items) items 3
      let index ← peekNumber (refuse items) items 4
      if index < 0 ∨ amount < 0 ∨ version < 0 then early (refuse items .badValue)
      else
        let (code, items) ← pop (refuse items) items
        let (_, items) ← pop (refuse items) items
        let (_, items) ← pop (refuse items) items
        let (_, items) ← pop (refuse items) items
        let (_, items) ← pop (refuse items) items
        let query : OutputQuery := {
          index := UInt64.ofNat index.toNat
          amount := UInt64.ofNat amount.toNat
          asset := assetId
          version := UInt64.ofNat version.toNat
          code := code }
        return { StackEffect.pushResult items.reverse ((check query).map Number.ofTruth) with
          query := some query }

/-- What reading the context does to a stack.  Only asking for an output has operands. -/
def byPosition (context : Context) (observe : Observe) (items : List Bytes) :
    Access StackEffect StackEffect :=
  match observe with
  | .checkOutput => askByPosition context.checkOutput items
  | observe => return observe.effect context items.reverse

end Observe

end EntryLedger
