import EntryLedger.Gas

/-!
# Access by position

A machine that keeps its stacks and byte strings in memory reaches into them by
positions, and computes those in words.  An access outside of what is there, a sum or a
difference that leaves its word, and a shift by too many bits are slips: nothing is said
about how to go on after one.
-/

namespace EntryLedger

/-- The greatest length of a list in memory. -/
def maxSize : Nat :=
  0x7fffffffffffffff

/-- Why a computation with positions and words cannot go on. -/
inductive Slip where
  /-- A position or a range outside of a list. -/
  | range
  /-- A sum or a difference outside of its word. -/
  | word
  /-- A shift by a negative number of bits or by 64 and more. -/
  | shift
  deriving DecidableEq

/-- How a computation with positions ends without a value. -/
inductive Exit (Early : Type) where
  | slip (slip : Slip)
  /-- A list would get too long for memory. -/
  | full
  /-- The computation returns early. -/
  | early (early : Early)

/-- A computation with positions. -/
abbrev Access (Early Value : Type) := Except (Exit Early) Value

namespace Access

variable {Early Item Other Value : Type}

def slip (slip : Slip) : Access Early Value :=
  .error (.slip slip)

def early (early : Early) : Access Early Value :=
  .error (.early early)

/-- The result of a computation that may return early. -/
def result : Access Value Value → Access Other Value
  | .ok value => .ok value
  | .error (.early value) => .ok value
  | .error (.slip slip) => .error (.slip slip)
  | .error .full => .error .full

@[simp]
theorem result_ok (value : Value) :
    (result (.ok value) : Access Other Value) = .ok value :=
  rfl

@[simp]
theorem result_early (value : Value) :
    (result (early value) : Access Other Value) = .ok value :=
  rfl

@[simp]
theorem early_bind (value : Early) (next : Value → Access Early Other) :
    (early value >>= next) = early value :=
  rfl

/-! ### Words -/

/-- A sum of unsigned words. -/
def sum (left right : Nat) : Access Early Nat :=
  if left + right ≤ maxWord then .ok (left + right) else slip .word

/-- A sum that returns early when it does not fit its word. -/
def checkedSum (left right : Nat) (overflow : Early) : Access Early Nat :=
  if left + right ≤ maxWord then .ok (left + right) else early overflow

/-- A difference of unsigned words. -/
def difference (left right : Nat) : Access Early Nat :=
  if right ≤ left then .ok (left - right) else slip .word

theorem sum_eq_ok {left right : Nat} (fits : left + right ≤ maxWord) :
    (sum left right : Access Early Nat) = .ok (left + right) :=
  if_pos fits

/-- A sum that would be refused anyway need not be looked at for overflow. -/
theorem checkedSum_bind {left right : Nat} {overflow : Early}
    {next : Nat → Access Early Value}
    (refused : maxWord < left + right → next (left + right) = early overflow) :
    (checkedSum left right overflow >>= next) = next (left + right) := by
  unfold checkedSum
  split
  · rfl
  · rename_i long
    exact (refused (Nat.lt_of_not_le long)).symm

theorem difference_eq_ok {left right : Nat} (fits : right ≤ left) :
    (difference left right : Access Early Nat) = .ok (left - right) :=
  if_pos fits

/-! ### Lists -/

/-- The item at a position. -/
def itemAt (items : List Item) (position : Nat) : Access Early Item :=
  match items[position]? with
  | some item => .ok item
  | none => slip .range

/-- The items from one position up to another. -/
def slice (items : List Item) (first last : Nat) : Access Early (List Item) :=
  if first ≤ last ∧ last ≤ items.length then .ok ((items.drop first).take (last - first))
  else slip .range

/-- The items from one position up to another, and the list without them. -/
def drain (items : List Item) (first last : Nat) : Access Early (List Item × List Item) :=
  if first ≤ last ∧ last ≤ items.length then
    .ok ((items.drop first).take (last - first), items.take first ++ items.drop last)
  else slip .range

/-- The item at a position, and the list without it. -/
def removeAt (items : List Item) (position : Nat) : Access Early (Item × List Item) :=
  match items[position]? with
  | some item => .ok (item, items.eraseIdx position)
  | none => slip .range

/-- Put an item before the one at a position. -/
def insertAt (items : List Item) (position : Nat) (item : Item) : Access Early (List Item) :=
  if position ≤ items.length then .ok (items.take position ++ item :: items.drop position)
  else slip .range

/-- Exchange the items at two positions. -/
def swapAt (items : List Item) (first second : Nat) : Access Early (List Item) :=
  match items[first]?, items[second]? with
  | some left, some right => .ok ((items.set first right).set second left)
  | _, _ => slip .range

/-- The items before a position and the ones from there on. -/
def splitAt (items : List Item) (position : Nat) : Access Early (List Item × List Item) :=
  if position ≤ items.length then .ok (items.take position, items.drop position)
  else slip .range

/-- Bring the first items behind a position to the end. -/
def rotateAt (items : List Item) (position count : Nat) : Access Early (List Item) :=
  if position ≤ items.length ∧ count ≤ items.length - position then
    .ok (items.take position ++
      ((items.drop position).drop count ++ (items.drop position).take count))
  else slip .range

/-- Copy a list to the front of a buffer, up to a position that has to be the length of
the list. -/
def overwrite (buffer : List Item) (last : Nat) (items : List Item) :
    Access Early (List Item) :=
  if last ≤ buffer.length ∧ items.length = last then .ok (items ++ buffer.drop last)
  else slip .range

/-- Append a list to another one. -/
def extend (items added : List Item) : Access Early (List Item) :=
  if items.length + added.length ≤ maxSize then .ok (items ++ added) else .error .full

section Lists

variable {items low middle high : List Item} {item : Item} {position first last : Nat}

theorem slice_eq_ok (split : items = low ++ (middle ++ high)) (begins : first = low.length)
    (ends : last = first + middle.length) :
    (slice items first last : Access Early (List Item)) = .ok middle := by
  subst split begins ends
  rw [slice, if_pos (by simp)]
  simp

theorem drain_eq_ok (split : items = low ++ (middle ++ high)) (begins : first = low.length)
    (ends : last = first + middle.length) :
    (drain items first last : Access Early (List Item × List Item)) =
      .ok (middle, low ++ high) := by
  subst split begins ends
  rw [drain, if_pos (by simp)]
  simp

theorem removeAt_eq_ok (split : items = low ++ item :: high) (here : position = low.length) :
    (removeAt items position : Access Early (Item × List Item)) = .ok (item, low ++ high) := by
  subst split here
  simp [removeAt, List.eraseIdx_append_of_length_le]

theorem insertAt_eq_ok (split : items = low ++ high) (here : position = low.length) :
    (insertAt items position item : Access Early (List Item)) = .ok (low ++ item :: high) := by
  subst split here
  rw [insertAt, if_pos (by simp)]
  simp

theorem swapAt_eq_ok {lower upper : Item} (split : items = low ++ lower :: upper :: high)
    (next : first = low.length + 1) (here : position = low.length) :
    (swapAt items first position : Access Early (List Item)) =
      .ok (low ++ upper :: lower :: high) := by
  subst split next here
  simp [swapAt]

theorem splitAt_eq_ok (split : items = low ++ high) (here : position = low.length) :
    (splitAt items position : Access Early (List Item × List Item)) = .ok (low, high) := by
  subst split here
  rw [splitAt, if_pos (by simp)]
  simp

theorem rotateAt_eq_ok {count : Nat} (split : items = low ++ (middle ++ high))
    (here : position = low.length) (moved : count = middle.length) :
    (rotateAt items position count : Access Early (List Item)) =
      .ok (low ++ (high ++ middle)) := by
  subst split here moved
  rw [rotateAt, if_pos (by simp)]
  simp

theorem overwrite_eq_ok {buffer : List Item} (room : items.length ≤ buffer.length) :
    (overwrite buffer items.length items : Access Early (List Item)) =
      .ok (items ++ buffer.drop items.length) :=
  if_pos ⟨room, rfl⟩

end Lists

end Access

end EntryLedger
