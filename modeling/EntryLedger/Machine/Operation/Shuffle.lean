import EntryLedger.Machine.Number
import EntryLedger.Machine.Opcode
import EntryLedger.Machine.StackEffect

/-!
# Moving and copying stack items

Moves are free.  Copies are pushed, so that their memory is paid for.
-/

namespace EntryLedger.Shuffle

/-- The index operand of an item below it, with the stack that holds the
item.  Nothing is taken from the stack when the operand is refused. -/
def chosen (operand : Bytes) (below : List Bytes)
    (use : Nat → Bytes → StackEffect) : StackEffect :=
  match Number.read operand with
  | none => .fail .badValue (operand :: below)
  | some number =>
      if number < 0 then .fail .badValue (operand :: below)
      else
        match below[number.toNat]? with
        | none => .fail .dataStackUnderflow (operand :: below)
        | some item => use number.toNat item

/-- What a move or copy does to the stack. -/
def effect : Shuffle → List Bytes → StackEffect
  | .drop2, _ :: _ :: below => .leave below
  | .dup2, first :: second :: below =>
      .push (first :: second :: below) [second, first]
  | .dup3, first :: second :: third :: below =>
      .push (first :: second :: third :: below) [third, second, first]
  | .over2, first :: second :: third :: fourth :: below =>
      .push (first :: second :: third :: fourth :: below) [fourth, third]
  | .rot2, first :: second :: third :: fourth :: fifth :: sixth :: below =>
      .leave (fifth :: sixth :: first :: second :: third :: fourth :: below)
  | .swap2, first :: second :: third :: fourth :: below =>
      .leave (third :: fourth :: first :: second :: below)
  | .ifDup, first :: below =>
      if Number.truth first then .push (first :: below) [first]
      else .leave (first :: below)
  | .depth, stack => .push stack [Number.write stack.length]
  | .drop, _ :: below => .leave below
  | .dup, first :: below => .push (first :: below) [first]
  | .nip, first :: _ :: below => .leave (first :: below)
  | .over, first :: second :: below => .push (first :: second :: below) [second]
  | .pick, operand :: below =>
      chosen operand below fun _ item => .push below [item]
  | .roll, operand :: below =>
      chosen operand below fun index item => .leave (item :: below.eraseIdx index)
  | .rot, first :: second :: third :: below =>
      .leave (third :: first :: second :: below)
  | .swap, first :: second :: below => .leave (second :: first :: below)
  | .tuck, first :: second :: below =>
      .after (8 + first.length) (.leave (first :: second :: first :: below))
  | _, stack => .missing stack

end EntryLedger.Shuffle
