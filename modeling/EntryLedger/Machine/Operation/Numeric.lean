import EntryLedger.Machine.Number
import EntryLedger.Machine.Opcode
import EntryLedger.Machine.StackEffect

/-!
# Arithmetic

Results that do not fit the 64-bit word are range errors.  Operations on two
or three numbers read all operands before they take any; an operation on one
number takes its operand first.
-/

namespace EntryLedger

/-- A number that has to fit the word. -/
def Number.checked (number : Int) : Except Fault Int :=
  if Number.fits number then .ok number else .error .rangeError

/-- The value of a function of one number. -/
def Unary.apply : Unary → Int → Int
  | .increment, number => number + 1
  | .decrement, number => number - 1
  | .double, number => number * 2
  | .halve, number => number >>> (1 : Nat)
  | .negate, number => -number
  | .abs, number => if number < 0 then -number else number

/-- The value of a function of two numbers.  Division truncates, the
remainder has the sign of the divisor, and shifts to the right round towards
minus infinity.  A shift to the left is undone to see whether the word kept
all of the number. -/
def Binary.apply : Binary → Int → Int → Except Fault Int
  | .add, left, right => Number.checked (left + right)
  | .sub, left, right => Number.checked (left - right)
  | .mul, left, right => Number.checked (left * right)
  | .div, left, right =>
      if right = 0 then .error .divideByZero
      else Number.checked (left.tdiv right)
  | .mod, left, right =>
      if right = 0 then .error .divideByZero
      else if Number.fits (left.tdiv right) = false then .error .rangeError
      else
        let remainder := left.tmod right
        if remainder ≠ 0 ∧ decide (remainder < 0) ≠ decide (right < 0) then
          .ok (remainder + right)
        else .ok remainder
  | .shiftLeft, left, count =>
      if count < 0 then .error .badValue
      else if left = 0 then .ok 0
      else if 63 < count then .error .rangeError
      else
        let word := Int.bmod (left <<< count.toNat) 0x10000000000000000
        if word >>> count.toNat = left then .ok word else .error .rangeError
  | .shiftRight, left, count =>
      if count < 0 then .error .badValue
      else if 63 < count then .ok (if left < 0 then -1 else 0)
      else .ok (left >>> count.toNat)
  | .smaller, left, right => .ok (min left right)
  | .larger, left, right => .ok (max left right)

/-- Whether two numbers are in a relation. -/
def Relation.holds : Relation → Int → Int → Bool
  | .and, left, right => left ≠ 0 && right ≠ 0
  | .or, left, right => left ≠ 0 || right ≠ 0
  | .equal, left, right => left = right
  | .notEqual, left, right => left ≠ right
  | .less, left, right => left < right
  | .greater, left, right => right < left
  | .lessOrEqual, left, right => left ≤ right
  | .greaterOrEqual, left, right => right ≤ left

namespace Numeric

/-- Take one number. -/
def withOne (stack : List Bytes) (use : Int → List Bytes → StackEffect) : StackEffect :=
  match stack with
  | operand :: below =>
      match Number.read operand with
      | some number => use number below
      | none => .fail .badValue below
  | _ => .missing stack

/-- Read two numbers, the right one on top, and leave them when one of them
is not a number. -/
def withTwo (stack : List Bytes) (use : Int → Int → List Bytes → StackEffect) : StackEffect :=
  match stack with
  | right :: left :: below =>
      match Number.read right, Number.read left with
      | some rightNumber, some leftNumber => use leftNumber rightNumber below
      | _, _ => .fail .badValue stack
  | _ => .missing stack

/-- Read three numbers and leave them when one of them is not a number. -/
def withThree (stack : List Bytes)
    (use : Int → Int → Int → List Bytes → StackEffect) : StackEffect :=
  match stack with
  | third :: second :: first :: below =>
      match Number.read third, Number.read second, Number.read first with
      | some thirdNumber, some secondNumber, some firstNumber =>
          use firstNumber secondNumber thirdNumber below
      | _, _, _ => .fail .badValue stack
  | _ => .missing stack

/-- What an arithmetic operation does to the stack. -/
def effect (operation : Numeric) (stack : List Bytes) : StackEffect :=
  match operation with
  | .unary function =>
      withOne stack fun number below =>
        .pushResult below ((Number.checked (function.apply number)).map Number.write)
  | .isZero =>
      withOne stack fun number below => .push below [Number.ofTruth (number = 0)]
  | .isNonzero =>
      withOne stack fun number below => .push below [Number.ofTruth (number ≠ 0)]
  | .binary function =>
      withTwo stack fun left right below =>
        match function.apply left right with
        | .ok number => .push below [Number.write number]
        | .error fault => .fail fault stack
  | .relation test =>
      withTwo stack fun left right below =>
        .push below [Number.ofTruth (test.holds left right)]
  | .equalVerify =>
      withTwo stack fun left right below => .demand (left = right) below
  | .within =>
      withThree stack fun number lowest bound below =>
        .push below [Number.ofTruth (lowest ≤ number && number < bound)]

end Numeric

end EntryLedger
