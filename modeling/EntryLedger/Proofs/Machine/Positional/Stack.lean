import EntryLedger.Machine.Number
import EntryLedger.Machine.StackEffect
import EntryLedger.Proofs.Checks
import EntryLedger.Proofs.Machine.Positional.Access

/-!
# Stacks by position

Here a stack is a list whose last item is the top, and the items below the top are
reached by positions that are computed from the length of the list.  The lemmas say what
is found on a stack that is given with its top first.
-/

namespace EntryLedger.Access

variable {Early : Type} (refuse : Fault → Early)

/-! ### Numbers -/

/-- A word as a number in two's complement. -/
def signed (word : Nat) : Int :=
  if word < 0x8000000000000000 then word else word - 0x10000000000000000

/-- The number that an item denotes, whose bytes are copied to the front of an empty
word. -/
def number (item : Bytes) : Access Early Int :=
  if 8 < item.length then early (refuse .badValue)
  else do
    let word ← overwrite (List.replicate 8 0) item.length item
    return signed (Bytes.ofLittleEndian word)

/-- A sum of signed words. -/
def wordSum (left right : Int) : Access Early Int :=
  if Number.fits (left + right) then .ok (left + right) else slip .word

def shiftLeft (left count : Int) : Access Early Int :=
  if 0 ≤ count ∧ count < 64 then .ok (Int.bmod (left <<< count.toNat) 0x10000000000000000)
  else slip .shift

def shiftRight (left count : Int) : Access Early Int :=
  if 0 ≤ count ∧ count < 64 then .ok (left >>> count.toNat) else slip .shift

def byteSum (left right : UInt8) : Access Early UInt8 :=
  if left.toNat + right.toNat ≤ 0xff then .ok (left + right) else slip .word

def byteDifference (left right : UInt8) : Access Early UInt8 :=
  if right ≤ left then .ok (left - right) else slip .word

/-! ### Items -/

/-- The item at some depth below the top. -/
def peek (items : List Bytes) (depth : Nat) : Access Early Bytes :=
  if items.length ≤ depth then early (refuse .dataStackUnderflow)
  else do
    let last ← difference items.length 1
    let position ← difference last depth
    itemAt items position

/-- The top and the items below it. -/
def pop (items : List Bytes) : Access Early (Bytes × List Bytes) :=
  match items.getLast? with
  | some item => .ok (item, items.dropLast)
  | none => early (refuse .dataStackUnderflow)

/-- The number at some depth below the top. -/
def peekNumber (items : List Bytes) (depth : Nat) : Access Early Int := do
  let item ← peek refuse items depth
  number refuse item

/-- Some items at some depth below the top, the lowest first. -/
def copied (items : List Bytes) (depth count : Nat) : Access Early (List Bytes) := do
  let needed ← sum depth count
  if items.length < needed then early (refuse .dataStackUnderflow)
  else
    let above ← difference items.length depth
    let first ← difference above count
    let last ← sum first count
    slice items first last

/-! ### What is found -/

theorem ofLittleEndian_append_zeros (bytes : Bytes) (count : Nat) :
    Bytes.ofLittleEndian (bytes ++ List.replicate count 0) = Bytes.ofLittleEndian bytes := by
  have zeros : Bytes.ofLittleEndian (List.replicate count 0) = 0 := by
    induction count with
    | zero => rfl
    | succ count ih => simp [List.replicate_succ, Bytes.ofLittleEndian, ih]
  rw [Bytes.ofLittleEndian_append, zeros, Nat.mul_zero, Nat.add_zero]

theorem number_eq (item : Bytes) :
    number refuse item =
      match Number.read item with
      | some number => .ok number
      | none => early (refuse .badValue) := by
  unfold number Number.read
  by_cases long : 8 < item.length
  · rw [if_pos long, if_neg (Nat.not_le.mpr long)]
  · rw [if_neg long, if_pos (Nat.not_lt.mp long), overwrite_eq_ok (by simpa using long),
      Checks.ok_bind, List.drop_replicate, ofLittleEndian_append_zeros]
    unfold signed
    simp only
    split
    · rfl
    · rfl

variable {stack : List Bytes} {depth : Nat}

theorem peek_reverse :
    peek refuse stack.reverse depth =
      match stack[depth]? with
      | some item => .ok item
      | none => early (refuse .dataStackUnderflow) := by
  rw [peek, List.length_reverse]
  by_cases short : stack.length ≤ depth
  · rw [if_pos short, List.getElem?_eq_none short]
  · have position : stack.reverse[stack.length - 1 - depth]? = stack[depth]? := by
      rw [List.getElem?_reverse (by omega)]
      congr 1
      omega
    rw [if_neg short, difference_eq_ok (by omega), Checks.ok_bind,
      difference_eq_ok (by omega), Checks.ok_bind, itemAt, position,
      List.getElem?_eq_getElem (Nat.lt_of_not_le short)]

theorem pop_reverse {item : Bytes} :
    pop refuse (item :: stack).reverse = .ok (item, stack.reverse) := by
  simp [pop]

theorem peekNumber_reverse :
    peekNumber refuse stack.reverse depth =
      match stack[depth]? with
      | some item =>
          match Number.read item with
          | some number => .ok number
          | none => early (refuse .badValue)
      | none => early (refuse .dataStackUnderflow) := by
  rw [peekNumber, peek_reverse]
  cases stack[depth]? with
  | none => rfl
  | some item => exact number_eq refuse item

theorem copied_reverse {count : Nat} (fits : stack.length ≤ maxWord)
    (enough : depth + count ≤ stack.length) :
    copied refuse stack.reverse depth count =
      .ok ((stack.drop depth).take count).reverse := by
  have split : stack.reverse = ((stack.drop depth).drop count).reverse ++
      (((stack.drop depth).take count).reverse ++ (stack.take depth).reverse) := by
    rw [← List.reverse_append, ← List.reverse_append, List.append_assoc,
      List.take_append_drop, List.take_append_drop]
  rw [copied, sum_eq_ok (by omega), Checks.ok_bind, List.length_reverse,
    if_neg (by omega), difference_eq_ok (by omega), Checks.ok_bind,
    difference_eq_ok (by omega), Checks.ok_bind, sum_eq_ok (by omega), Checks.ok_bind]
  refine slice_eq_ok split ?_ ?_
  · rw [List.length_reverse, List.length_drop, List.length_drop]
  · rw [List.length_reverse, List.length_take, List.length_drop]
    omega

/-- Positions from the top are positions from the end. -/
theorem difference_reverse {count : Nat} (enough : count ≤ stack.length) :
    (difference stack.reverse.length count : Access Early Nat) =
      .ok (stack.length - count) := by
  rw [List.length_reverse, difference_eq_ok enough]

/-- The items on top are behind the others. -/
theorem splitAt_reverse (count : Nat) :
    (splitAt stack.reverse (stack.length - count) : Access Early (List Bytes × List Bytes)) =
      .ok ((stack.drop count).reverse, (stack.take count).reverse) := by
  refine splitAt_eq_ok ?_ ?_
  · rw [← List.reverse_append, List.take_append_drop]
  · rw [List.length_reverse, List.length_drop]

end EntryLedger.Access
