import EntryLedger.Machine.Context

/-!
# Effects on the data stack

Most operations only affect the data stack.  What such an operation does is
described without any reference to gas: a toll that is due first, the stack
that is left once the operands are taken, and the items that are pushed on it
or the reason why the operation fails.  Whoever carries out the effect pays
the toll and every pushed item.

Stacks are lists whose head is the top.
-/

namespace EntryLedger

/-- What an operation on the data stack does. -/
structure StackEffect where
  /-- Gas that is due before the stack is touched. -/
  toll : Option Nat
  /-- The stack once the operands are taken, which stays after a failure. -/
  stack : List Bytes
  /-- The question put to the output checker. -/
  query : Option OutputQuery
  /-- The items to push, the lowest first, or the reason of a failure. -/
  outcome : Except Stop (List Bytes)

namespace StackEffect

/-- Leave a stack and push nothing. -/
def leave (stack : List Bytes) : StackEffect :=
  { toll := none, stack := stack, query := none, outcome := .ok [] }

/-- Leave a stack and push some items on it, the lowest first. -/
def push (stack : List Bytes) (items : List Bytes) : StackEffect :=
  { toll := none, stack := stack, query := none, outcome := .ok items }

/-- Leave a stack and fail. -/
def fail (fault : Fault) (stack : List Bytes) : StackEffect :=
  { toll := none, stack := stack, query := none, outcome := .error (.fault fault) }

/-- The operands that the operation was promised are not there. -/
def missing (stack : List Bytes) : StackEffect :=
  { toll := none, stack := stack, query := none
    outcome := .error (.breach .missingOperand) }

/-- Leave a stack, and fail unless a condition holds. -/
def demand (condition : Bool) (stack : List Bytes) : StackEffect :=
  if condition then leave stack else fail .verifyFailed stack

/-- The same effect after a toll. -/
def after (toll : Nat) (effect : StackEffect) : StackEffect :=
  { effect with toll := some toll }

/-- Push the item that a computation gives, or fail as it does. -/
def pushResult (stack : List Bytes) (result : Except Fault Bytes) : StackEffect :=
  match result with
  | .ok item => push stack [item]
  | .error fault => fail fault stack

end StackEffect

end EntryLedger
