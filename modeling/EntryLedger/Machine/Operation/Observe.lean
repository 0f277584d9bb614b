import EntryLedger.Machine.Number
import EntryLedger.Machine.Opcode
import EntryLedger.Machine.StackEffect

/-!
# Reading the context

Each operation pushes one part of the context and fails when the entry does
not have that part.
-/

namespace EntryLedger.Observe

/-- The bytes of a part of the context that the entry may lack. -/
def present {Part : Type} (part : Option Part) (bytes : Part → Except Fault Bytes) :
    Except Fault Bytes :=
  match part with
  | some value => bytes value
  | none => .error .wrongContext

/-- A ledger quantity as an item. -/
def quantity (number : UInt64) : Except Fault Bytes :=
  match Number.ofQuantity number with
  | some value => .ok (Number.write value)
  | none => .error .rangeError

/-- An operand that has to be a number that is not negative. -/
def natural (operand : Bytes) : Option UInt64 :=
  match Number.read operand with
  | some number => if number < 0 then none else some (UInt64.ofNat number.toNat)
  | none => none

/-- The question that the operands ask: index, amount, asset, version and
code, the last one on top. -/
def question (versionItem assetItem amountItem indexItem code : Bytes) :
    Option OutputQuery := do
  let version ← natural versionItem
  let asset ← Digest.ofBytes? assetItem
  let amount ← natural amountItem
  let index ← natural indexItem
  return { index := index, amount := amount, asset := asset, version := version, code := code }

/-- What asking for an output does to the stack. -/
def askOutput (checker : Option OutputChecker) (stack : List Bytes) : StackEffect :=
  match checker with
  | none => .fail .wrongContext stack
  | some check =>
      match stack with
      | code :: versionItem :: assetItem :: amountItem :: indexItem :: below =>
          match question versionItem assetItem amountItem indexItem code with
          | none => .fail .badValue stack
          | some query =>
              { StackEffect.pushResult below ((check query).map Number.ofTruth) with
                query := some query }
      | _ => .missing stack

/-- What reading the context does to the stack. -/
def effect (context : Context) (operation : Observe) (stack : List Bytes) : StackEffect :=
  match operation with
  | .checkOutput => askOutput context.checkOutput stack
  | .signatureHash => .push stack [context.signatureHash.bytes]
  | .asset => .pushResult stack (present context.asset fun part => .ok part.bytes)
  | .amount => .pushResult stack (present context.amount quantity)
  | .program => .push stack [context.program]
  | .position => .pushResult stack (present context.position quantity)
  | .entryId => .push stack [context.entryId.bytes]
  | .outputId =>
      .pushResult stack (present context.spentOutput fun part => .ok part.bytes)
  | .blockHeight => .pushResult stack (quantity context.blockHeight)
  | .blockTime => .pushResult stack (quantity context.blockTime)

end EntryLedger.Observe
