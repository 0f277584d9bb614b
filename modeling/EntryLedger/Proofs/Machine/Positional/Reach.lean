import EntryLedger.Proofs.Machine.Operands
import EntryLedger.Proofs.Machine.Positional.Effect
import EntryLedger.Proofs.Machine.Positional.Fitting

/-!
# What operations reach is there

On a stack that holds as many items as an operation needs, every position that the
operation computes is one of the stack, and its sums, differences and shifts stay within
their words.  It comes to the effect that is found by looking for operands in a pattern.
-/

namespace EntryLedger

open Access

open StackEffect

namespace Shuffle

variable {stack : List Bytes}

theorem copy_reverse (fits : Fits stack) {depth count : Nat}
    (enough : depth + count ≤ stack.length) :
    copy stack.reverse depth count =
      .ok (.push stack ((stack.drop depth).take count).reverse) := by
  rw [copy, copied_reverse _ fits.le_maxWord enough, Checks.ok_bind, List.reverse_reverse]
  rfl

/-- An index operand that is refused is refused in both ways. -/
theorem result_index_bind {operand : Bytes} {below : List Bytes}
    {next : Nat → Access StackEffect StackEffect} {use : Nat → Bytes → StackEffect}
    (fits : Fits (operand :: below))
    (agree : ∀ index item, below[index]? = some item →
      ((next index).result : Access Stop StackEffect) = .ok (use index item)) :
    ((index (operand :: below).reverse >>= next).result : Access Stop StackEffect) =
      .ok (chosen operand below use) := by
  simp only [index, peekNumber_reverse, chosen, List.getElem?_cons_zero, refuse_reverse]
  cases read : Number.read operand with
  | none => rfl
  | some number =>
      simp only [Checks.ok_bind]
      by_cases negative : number < 0
      · rw [if_pos negative, if_pos negative]
        rfl
      · rw [if_neg negative, if_neg negative]
        have short := fits.le_maxWord
        have shortage (few : below.length ≤ number.toNat) :
            (operand :: below).reverse.length < number.toNat + 2 := by
          simp only [List.length_reverse, List.length_cons]
          omega
        rw [checkedSum_bind fun long => if_pos (shortage (by simp at short; omega))]
        cases found : below[number.toNat]? with
        | none =>
            rw [if_pos (shortage (List.getElem?_eq_none_iff.mp found))]
            rfl
        | some item =>
            have within := (List.getElem?_eq_some_iff.mp found).1
            rw [if_neg (by simp; omega)]
            exact agree _ _ found

theorem byPosition_reverse {shuffle : Shuffle} (fits : Fits stack)
    (enough : (Operation.shuffle shuffle).operands ≤ stack.length) :
    ((shuffle.byPosition stack.reverse).result : Access Stop StackEffect) =
      .ok (shuffle.effect stack) := by
  cases shuffle with
  | depth =>
      have short : ¬ maxSize < stack.reverse.length := by simpa using fits.count
      simp only [byPosition, if_neg short]
      simp [effect]
  | ifDup =>
      obtain ⟨first, below, rfl, -⟩ := exists_top enough
      simp only [byPosition, peek_reverse, List.getElem?_cons_zero, Checks.ok_bind, effect]
      split
      · rw [copy_reverse fits enough]
        rfl
      · rw [List.reverse_reverse]
        rfl
  | drop =>
      obtain ⟨first, below, rfl, -⟩ := exists_top enough
      simp only [byPosition, pop_reverse, Checks.ok_bind, List.reverse_reverse]
      rfl
  | dup =>
      rw [byPosition, copy_reverse fits enough]
      obtain ⟨first, below, rfl, -⟩ := exists_top enough
      rfl
  | drop2 =>
      obtain ⟨first, second, below, rfl, -⟩ := exists_two enough
      simp only [byPosition, pop_reverse, Checks.ok_bind, List.reverse_reverse]
      rfl
  | dup2 | «over» =>
      rw [byPosition, copy_reverse fits enough]
      obtain ⟨first, second, below, rfl, -⟩ := exists_two enough
      rfl
  | dup3 =>
      rw [byPosition, copy_reverse fits enough]
      obtain ⟨first, second, third, below, rfl, -⟩ := exists_three enough
      rfl
  | over2 =>
      rw [byPosition, copy_reverse fits enough]
      obtain ⟨first, second, below, rfl, two⟩ := exists_two enough
      obtain ⟨third, fourth, below, rfl, -⟩ := exists_two two
      rfl
  | nip =>
      have two : 2 ≤ stack.length := enough
      rw [byPosition, difference_reverse two, Checks.ok_bind]
      obtain ⟨first, second, below, rfl, -⟩ := exists_two enough
      have split : (first :: second :: below).reverse = below.reverse ++ second :: [first] := by
        simp
      rw [removeAt_eq_ok split (by simp), Checks.ok_bind]
      simp [effect]
  | swap =>
      have two : 2 ≤ stack.length := enough
      rw [byPosition, difference_reverse (Nat.le_of_lt two), Checks.ok_bind,
        difference_reverse two, Checks.ok_bind]
      obtain ⟨first, second, below, rfl, -⟩ := exists_two enough
      have split : (first :: second :: below).reverse =
          below.reverse ++ second :: first :: [] := by
        simp
      rw [swapAt_eq_ok split (by simp) (by simp), Checks.ok_bind]
      simp [effect]
  | tuck =>
      have two : 2 ≤ stack.length := enough
      obtain ⟨first, below, rfl, one⟩ := exists_top enough
      have room : Machine.itemCost + maxSize ≤ maxWord := by decide
      have length := fits.lengths first List.mem_cons_self
      rw [byPosition, peek_reverse]
      simp only [List.getElem?_cons_zero, Checks.ok_bind]
      rw [sum_eq_ok (by omega), Checks.ok_bind, difference_reverse two, Checks.ok_bind]
      obtain ⟨second, below, rfl, -⟩ := exists_top one
      have split : (first :: second :: below).reverse = below.reverse ++ [second, first] := by
        simp
      rw [insertAt_eq_ok split (by simp), Checks.ok_bind]
      simp [effect, Machine.itemCost]
  | rot =>
      have three : 3 ≤ stack.length := enough
      rw [byPosition, difference_reverse three, Checks.ok_bind]
      obtain ⟨first, second, third, below, rfl, -⟩ := exists_three enough
      have split : (first :: second :: third :: below).reverse =
          below.reverse ++ ([third] ++ [second, first]) := by
        simp
      have moved : 1 = [third].length := rfl
      rw [rotateAt_eq_ok split (by simp) moved, Checks.ok_bind]
      simp [effect]
  | swap2 =>
      have four : 4 ≤ stack.length := enough
      rw [byPosition, difference_reverse four, Checks.ok_bind]
      obtain ⟨first, second, below, rfl, two⟩ := exists_two enough
      obtain ⟨third, fourth, below, rfl, -⟩ := exists_two two
      have split : (first :: second :: third :: fourth :: below).reverse =
          below.reverse ++ ([fourth, third] ++ [second, first]) := by
        simp
      have moved : 2 = [fourth, third].length := rfl
      rw [rotateAt_eq_ok split (by simp) moved, Checks.ok_bind]
      simp [effect]
  | rot2 =>
      have six : 6 ≤ stack.length := enough
      rw [byPosition, difference_reverse six, Checks.ok_bind, difference_reverse (by omega),
        Checks.ok_bind]
      obtain ⟨first, second, third, below, rfl, three⟩ := exists_three enough
      obtain ⟨fourth, fifth, sixth, below, rfl, -⟩ := exists_three three
      have split : (first :: second :: third :: fourth :: fifth :: sixth :: below).reverse =
          below.reverse ++ ([sixth, fifth] ++ [fourth, third, second, first]) := by
        simp
      rw [drain_eq_ok split (by simp) (by simp), Checks.ok_bind]
      simp [effect]
  | pick =>
      obtain ⟨operand, below, rfl, -⟩ := exists_top enough
      rw [byPosition, effect]
      refine result_index_bind fits fun index item found => ?_
      have within := (List.getElem?_eq_some_iff.mp found).1
      rw [pop_reverse, Checks.ok_bind]
      simp only
      rw [copy_reverse fits.below within, List.take_one, List.head?_drop, found]
      rfl
  | roll =>
      obtain ⟨operand, below, rfl, -⟩ := exists_top enough
      rw [byPosition, effect]
      refine result_index_bind fits fun index item found => ?_
      obtain ⟨within, rfl⟩ := List.getElem?_eq_some_iff.mp found
      have split : below.reverse =
          (below.drop (index + 1)).reverse ++ below[index] :: (below.take index).reverse := by
        simp
      rw [pop_reverse, Checks.ok_bind]
      simp only
      rw [difference_reverse (by omega), Checks.ok_bind, difference_eq_ok (by omega),
        Checks.ok_bind, removeAt_eq_ok split (by simp; omega), Checks.ok_bind]
      simp [List.eraseIdx_eq_take_drop_succ]

end Shuffle

/-- How an operation by position comes out, given the effect that a pattern finds: it
comes to that effect and pushes nothing that is too long for memory, or what it makes of
the items on the stack is more than memory holds. -/
inductive Finds (stack : List Bytes) (access : Access StackEffect StackEffect)
    (effect : StackEffect) : Prop
  | found (same : (access.result : Access Stop StackEffect) = .ok effect)
      (fitting : effect.Fitting)
  | full (reached : access = .error .full) (heavy : maxSize < held stack)

/-! ### Joining and cutting -/

namespace Splice

variable {stack below : List Bytes}

theorem bytesAt_reverse {depth : Nat} {operand : Bytes}
    (found : stack[depth]? = some operand) :
    bytesAt stack.reverse depth =
      attempt (fun fault => fail fault stack) (byteCount operand) := by
  simp only [bytesAt, peekNumber_reverse, found, refuse_reverse, byteCount]
  cases Number.read operand with
  | none => rfl
  | some number =>
      rw [Checks.ok_bind]
      simp only
      split
      · rfl
      · rfl

/-- An operand that is refused is refused in both ways. -/
theorem result_attempt_bind {count : Except Fault Nat}
    {next : Nat → Access StackEffect StackEffect} {part : Nat → Except Fault Bytes}
    (agree : ∀ number, ((next number).result : Access Stop StackEffect) =
      .ok (pushPart stack below (part number))) :
    ((attempt (fun fault => fail fault stack) count >>= next).result :
        Access Stop StackEffect) =
      .ok (pushPart stack below (count >>= part)) := by
  cases count with
  | error fault => rfl
  | ok number => exact agree number

theorem fitting_pushPart {part : Except Fault Bytes}
    (short : ∀ item, part = .ok item → item.length ≤ maxSize) :
    (pushPart stack below part).Fitting := by
  cases part with
  | error fault => exact fitting_fail
  | ok item => simpa [pushPart] using short item rfl

theorem length_le_of_cut {text item : Bytes} {offset length : Nat}
    (found : cut text offset length = .ok item) : item.length ≤ text.length := by
  unfold cut at found
  split at found
  · cases found
  · cases found
    simp only [List.length_take, List.length_drop]
    omega

/-- A small number has a push of its own, whose opcode fits a byte. -/
theorem encoding_of_small {byte : UInt8} (positive : 1 ≤ byte) (small : byte ≤ 16) :
    (byteSum 0x51 byte >>= fun above => byteDifference above 1 >>= fun opcode =>
      return [opcode] : Access StackEffect Bytes) = .ok (Code.push [byte]) := by
  have bound : byte.toNat ≤ 16 := UInt8.le_iff_toNat_le.mp small
  have above : (0x51 + byte).toNat = 0x51 + byte.toNat := by
    rw [UInt8.toNat_add]
    exact Nat.mod_eq_of_lt (by simp; omega)
  have one : (1 : UInt8) ≤ 0x51 + byte := by
    rw [UInt8.le_iff_toNat_le, above]
    simp
    omega
  have opcode : 0x51 + byte - 1 = 0x50 + byte := by
    grind
  rw [byteSum, if_pos (by simp; omega), Checks.ok_bind, byteDifference, if_pos one,
    Checks.ok_bind, opcode]
  simp [Code.push, positive, small]

theorem encoding_eq {item : Bytes} (short : item.length ≤ maxSize) :
    encoding item =
      if maxSize < item.length + 5 then .error .full else .ok (Code.push item) := by
  have word : maxSize + 5 ≤ maxWord := by decide
  rw [encoding, sum_eq_ok (by omega), Checks.ok_bind]
  split
  · rfl
  · unfold isSmall
    split
    · rename_i single
      obtain ⟨byte, rfl⟩ := List.length_eq_one_iff.mp single
      simp only [itemAt, List.getElem?_cons_zero, Checks.ok_bind, Checks.pure_eq_ok]
      split
      · rename_i small
        simp only [Bool.and_eq_true, decide_eq_true_eq] at small
        exact encoding_of_small small.1 small.2
      · rfl
    · rfl

theorem length_push_le (item : Bytes) : (Code.push item).length ≤ item.length + 5 := by
  unfold Code.push
  simp only
  split
  · simp
  · split
    · simp
    · split
      · simp
      · split
        · simp
          omega
        · split
          · simp
            omega
          · simp
            omega

/-- Two items that are too long to be joined in memory are too much for a stack. -/
theorem finds_extend {first added : Bytes}
    (heavy : maxSize < first.length + added.length → maxSize < held stack) :
    Finds stack (extend first added >>= fun joined => return .push below [joined])
      (.push below [first ++ added]) := by
  unfold extend
  split
  · rename_i room
    exact .found rfl (by simpa using room)
  · rename_i long
    exact .full rfl (heavy (Nat.lt_of_not_le long))

theorem finds_effect {splice : Splice} (fits : Fits stack)
    (enough : (Operation.splice splice).operands ≤ stack.length) :
    Finds stack (splice.byPosition stack.reverse) (splice.effect stack) := by
  cases splice with
  | concat =>
      obtain ⟨second, first, below, rfl, -⟩ := exists_two enough
      simp only [byPosition, pop_reverse, Checks.ok_bind, effect, List.reverse_reverse]
      refine finds_extend fun long => ?_
      simp only [held_cons]
      omega
  | concatPush =>
      obtain ⟨second, first, below, rfl, -⟩ := exists_two enough
      have short := fits.lengths second List.mem_cons_self
      have length := length_push_le second
      simp only [byPosition, pop_reverse, Checks.ok_bind, effect, List.reverse_reverse,
        encoding_eq short]
      by_cases long : maxSize < second.length + 5
      · simp only [if_pos long, Checks.error_bind]
        refine .full rfl ?_
        simp only [held_cons]
        omega
      · simp only [if_neg long, Checks.ok_bind]
        refine finds_extend fun long => ?_
        simp only [held_cons]
        omega
  | size =>
      obtain ⟨item, below, rfl, -⟩ := exists_top enough
      have short := fits.lengths item List.mem_cons_self
      simp only [byPosition, peek_reverse, List.getElem?_cons_zero, Checks.ok_bind, effect,
        if_neg (Nat.not_lt.mpr short), List.reverse_reverse]
      exact .found rfl (by simp)
  | left =>
      obtain ⟨operand, text, below, rfl, -⟩ := exists_two enough
      have short := fits.below.lengths text List.mem_cons_self
      refine .found ?_ (fitting_pushPart fun item part => ?_)
      · rw [byPosition, bytesAt_reverse rfl]
        refine result_attempt_bind fun length => ?_
        simp only [peek_reverse, List.getElem?_cons_succ, List.getElem?_cons_zero,
          Checks.ok_bind, refuse_reverse, pop_reverse, cut, Nat.zero_add, List.drop_zero,
          List.reverse_reverse]
        split
        · rfl
        · rfl
      · obtain ⟨length, -, part⟩ := Checks.bind_eq_ok.mp part
        exact Nat.le_trans (length_le_of_cut part) short
  | right =>
      obtain ⟨operand, text, below, rfl, -⟩ := exists_two enough
      have short := fits.below.lengths text List.mem_cons_self
      refine .found ?_ (fitting_pushPart fun item part => ?_)
      · rw [byPosition, bytesAt_reverse rfl]
        refine result_attempt_bind fun length => ?_
        simp only [peek_reverse, List.getElem?_cons_succ, List.getElem?_cons_zero,
          Checks.ok_bind, refuse_reverse, pop_reverse, List.reverse_reverse]
        by_cases long : text.length < length
        · simp only [if_pos long]
          rfl
        · have within : length ≤ text.length := Nat.le_of_not_lt long
          have cuts : ¬ text.length < text.length - length + length := by omega
          simp only [if_neg long, cut, if_neg cuts, difference_eq_ok within, Checks.ok_bind]
          rw [slice, if_pos ⟨Nat.sub_le _ _, Nat.le_refl _⟩, Checks.ok_bind,
            Nat.sub_sub_self within]
          rfl
      · obtain ⟨length, -, part⟩ := Checks.bind_eq_ok.mp part
        split at part
        · cases part
        · exact Nat.le_trans (length_le_of_cut part) short
  | substring =>
      obtain ⟨lengthItem, offsetItem, text, below, rfl, -⟩ := exists_three enough
      have short := fits.below.below.lengths text List.mem_cons_self
      refine .found ?_ (fitting_pushPart fun item part => ?_)
      · rw [byPosition, bytesAt_reverse rfl]
        refine result_attempt_bind fun length => ?_
        rw [bytesAt_reverse rfl]
        refine result_attempt_bind fun offset => ?_
        have word : maxSize ≤ maxWord := by decide
        simp only [peek_reverse, List.getElem?_cons_succ, List.getElem?_cons_zero,
          Checks.ok_bind, refuse_reverse, pop_reverse, List.reverse_reverse, cut]
        rw [checkedSum_bind fun overflow => if_pos (by omega)]
        by_cases long : text.length < offset + length
        · rw [if_pos long, if_pos long]
          rfl
        · have within : offset ≤ offset + length ∧ offset + length ≤ text.length := by omega
          rw [if_neg long, if_neg long, slice, if_pos within, Checks.ok_bind,
            Nat.add_sub_cancel_left]
          rfl
      · obtain ⟨length, -, part⟩ := Checks.bind_eq_ok.mp part
        obtain ⟨offset, -, part⟩ := Checks.bind_eq_ok.mp part
        exact Nat.le_trans (length_le_of_cut part) short

end Splice

theorem Bitwise.byPosition_reverse {bitwise : Bitwise} {stack : List Bytes}
    (enough : (Operation.bitwise bitwise).operands ≤ stack.length) :
    bitwise.byPosition stack.reverse = .ok (bitwise.effect stack) := by
  cases bitwise with
  | invert =>
      obtain ⟨item, below, rfl, -⟩ := exists_top enough
      simp only [byPosition, pop_reverse, Checks.ok_bind, List.reverse_reverse]
      rfl
  | and | or | xor | equal | equalVerify =>
      obtain ⟨second, first, below, rfl, -⟩ := exists_two enough
      simp only [byPosition, pop_reverse, Checks.ok_bind, List.reverse_reverse]
      rfl

/-! ### Arithmetic -/

/-- What an item denotes fits the word. -/
theorem Number.fits_of_read {item : Bytes} {number : Int}
    (read : Number.read item = some number) : Number.fits number = true := by
  unfold Number.read at read
  split at read
  · rename_i short
    have bound := Nat.lt_of_lt_of_le (Bytes.ofLittleEndian_lt item) (Bytes.capacity_le short)
    have capacity : Bytes.capacity 8 = 0x10000000000000000 := by decide
    simp only at read
    split at read
    · cases read
      simp only [Number.fits, decide_eq_true_eq]
      omega
    · cases read
      simp only [Number.fits, decide_eq_true_eq]
      omega
  · cases read

section InWord

variable {Early : Type} {refuse : Fault → Early}

theorem Unary.inWord_eq (function : Unary) {number : Int}
    (fits : Number.fits number = true) :
    function.inWord refuse number =
      attempt refuse (Number.checked (function.apply number)) := by
  cases function with
  | halve =>
      have half : Number.fits (number >>> (1 : Nat)) = true := by
        simp only [Number.fits, decide_eq_true_eq, Int.shiftRight_eq_div_pow] at fits ⊢
        omega
      rw [inWord, Access.shiftRight, if_pos (by decide), apply, Number.checked, if_pos half]
      rfl
  | _ => rfl

theorem Binary.inWord_eq (function : Binary) {left right : Int}
    (fits : Number.fits right = true) :
    function.inWord refuse left right = attempt refuse (function.apply left right) := by
  cases function with
  | mod =>
      simp only [inWord, apply]
      split
      · rfl
      · split
        · rfl
        · split
          · rename_i nonzero _ signs
            -- The remainder and the divisor have opposite signs, and the divisor is larger.
            have smaller : (left.tmod right).natAbs < right.natAbs := by
              rw [Int.natAbs_tmod]
              exact Nat.mod_lt _ (Int.natAbs_pos.mpr nonzero)
            have whole : Number.fits (left.tmod right + right) = true := by
              simp only [Number.fits, decide_eq_true_eq, ne_eq, decide_eq_decide] at fits signs ⊢
              omega
            rw [wordSum, if_pos whole]
            rfl
          · rfl
  | shiftLeft =>
      simp only [inWord, apply]
      split
      · rfl
      · split
        · rfl
        · split
          · rfl
          · have few : 0 ≤ right ∧ right < 64 := by omega
            rw [Access.shiftLeft, if_pos few, Checks.ok_bind, Access.shiftRight, if_pos few,
              Checks.ok_bind]
            split
            · rfl
            · rfl
  | shiftRight =>
      simp only [inWord, apply]
      split
      · rfl
      · split
        · rfl
        · have few : 0 ≤ right ∧ right < 64 := by omega
          rw [Access.shiftRight, if_pos few]
          rfl
  | _ => rfl

end InWord

namespace Numeric

variable {below : List Bytes}

theorem result_takeOne {operand : Bytes} {use : Int → List Bytes → Access StackEffect StackEffect}
    {use' : Int → List Bytes → StackEffect}
    (agree : ∀ number, Number.fits number = true →
      ((use number below.reverse).result : Access Stop StackEffect) =
        .ok (use' number below)) :
    ((takeOne (operand :: below).reverse use).result : Access Stop StackEffect) =
      .ok (withOne (operand :: below) use') := by
  simp only [takeOne, pop_reverse, Checks.ok_bind, number_eq, refuse_reverse, withOne]
  cases read : Number.read operand with
  | none => rfl
  | some number => exact agree number (Number.fits_of_read read)

theorem result_readTwo {Value : Type} {left right : Bytes}
    {compute : Int → Int → Access StackEffect Value} {use : Value → List Bytes → StackEffect}
    {use' : Int → Int → List Bytes → StackEffect}
    (agree : ∀ leftNumber rightNumber, Number.fits rightNumber = true →
      ((compute leftNumber rightNumber >>= fun value =>
          return use value below.reverse).result : Access Stop StackEffect) =
        .ok (use' leftNumber rightNumber below)) :
    ((readTwo (right :: left :: below).reverse compute use).result :
        Access Stop StackEffect) =
      .ok (withTwo (right :: left :: below) use') := by
  simp only [readTwo, peekNumber_reverse, List.getElem?_cons_zero, List.getElem?_cons_succ,
    refuse_reverse, withTwo]
  cases rightRead : Number.read right with
  | none => rfl
  | some rightNumber =>
      simp only [Checks.ok_bind]
      cases leftRead : Number.read left with
      | none => rfl
      | some leftNumber =>
          simp only [Checks.ok_bind, pop_reverse]
          exact agree leftNumber rightNumber (Number.fits_of_read rightRead)

theorem byPosition_reverse {numeric : Numeric} {stack : List Bytes}
    (enough : (Operation.numeric numeric).operands ≤ stack.length) :
    ((numeric.byPosition stack.reverse).result : Access Stop StackEffect) =
      .ok (numeric.effect stack) := by
  cases numeric with
  | unary function =>
      obtain ⟨operand, below, rfl, -⟩ := exists_top enough
      rw [byPosition, effect]
      refine result_takeOne fun number fits => ?_
      rw [function.inWord_eq fits]
      cases Number.checked (function.apply number) with
      | ok value => simp [attempt, pushResult, Except.map]
      | error fault => simp [attempt, pushResult, Except.map]
  | isZero | isNonzero =>
      obtain ⟨operand, below, rfl, -⟩ := exists_top enough
      rw [byPosition, effect]
      refine result_takeOne fun number _ => ?_
      simp
  | binary function =>
      obtain ⟨right, left, below, rfl, -⟩ := exists_two enough
      rw [byPosition, effect]
      refine result_readTwo fun leftNumber rightNumber fits => ?_
      rw [function.inWord_eq fits]
      cases function.apply leftNumber rightNumber with
      | ok value => simp [attempt]
      | error fault => exact congrArg Except.ok (refuse_reverse (right :: left :: below) fault)
  | relation test =>
      obtain ⟨right, left, below, rfl, -⟩ := exists_two enough
      rw [byPosition, effect]
      refine result_readTwo fun _ _ _ => ?_
      simp
  | equalVerify =>
      obtain ⟨right, left, below, rfl, -⟩ := exists_two enough
      rw [byPosition, effect]
      refine result_readTwo fun _ _ _ => ?_
      simp
  | within =>
      obtain ⟨third, second, first, below, rfl, -⟩ := exists_three enough
      simp only [byPosition, peekNumber_reverse, List.getElem?_cons_zero,
        List.getElem?_cons_succ, refuse_reverse, effect, withThree]
      cases Number.read third with
      | none => rfl
      | some thirdNumber =>
          simp only [Checks.ok_bind]
          cases Number.read second with
          | none => rfl
          | some secondNumber =>
              simp only [Checks.ok_bind]
              cases Number.read first with
              | none => rfl
              | some firstNumber =>
                  simp only [Checks.ok_bind, pop_reverse, List.reverse_reverse]
                  rfl

end Numeric

/-! ### Signatures and the context -/

namespace Attest

variable {verify : SignatureVerifier} {stack : List Bytes}

/-- The keys, the message and the signatures are where the operands say. -/
theorem result_signers {keyCount signatureCount : Bytes} {below : List Bytes}
    {keyTotal signatureTotal : Nat} (fits : Fits (keyCount :: signatureCount :: below)) :
    ((signers verify (keyCount :: signatureCount :: below).reverse keyTotal
        signatureTotal).result : Access Stop StackEffect) = .ok
      (if below.length < keyTotal + signatureTotal + 1 then
        .fail .dataStackUnderflow (keyCount :: signatureCount :: below)
      else
        match below.drop keyTotal with
        | [] => .missing (keyCount :: signatureCount :: below)
        | message :: rest =>
            if message.length ≠ messageLength then
              .fail .badValue (keyCount :: signatureCount :: below)
            else if maxWord < keyCost * keyTotal then
              .fail .rangeError (keyCount :: signatureCount :: below)
            else
              .after (keyCost * keyTotal)
                (judge (allMatch (fun key signature => verify key message signature)
                    (below.take keyTotal).reverse (rest.take signatureTotal).reverse)
                  (rest.take signatureTotal).reverse (rest.drop signatureTotal))) := by
  have short := fits.le_maxWord
  simp only [List.length_cons] at short
  have length : (keyCount :: signatureCount :: below).reverse.length = below.length + 2 := by
    simp
  simp only [signers, refuse_reverse, length]
  have few (long : maxWord < keyTotal + signatureTotal + 3) :
      below.length + 2 < keyTotal + signatureTotal + 3 := by
    omega
  rw [checkedSum_bind fun long => by rw [checkedSum_bind fun long => if_pos (few long),
    if_pos (by omega)], checkedSum_bind fun long => if_pos (few long)]
  by_cases missing : below.length < keyTotal + signatureTotal + 1
  · rw [if_pos missing, if_pos (by omega)]
    rfl
  · have within : keyTotal < below.length := by omega
    rw [if_neg missing, if_neg (by omega), sum_eq_ok (by omega), Checks.ok_bind, peek_reverse]
    simp only [List.getElem?_cons_succ]
    rw [List.getElem?_eq_getElem within, List.drop_eq_getElem_cons within]
    simp only [Checks.ok_bind]
    split
    · rfl
    · split
      · rfl
      · simp only [pop_reverse, Checks.ok_bind]
        rw [difference_reverse (by omega), Checks.ok_bind, splitAt_reverse, Checks.ok_bind]
        simp only [List.drop_eq_getElem_cons within, pop_reverse, Checks.ok_bind]
        rw [difference_reverse (by simp; omega), Checks.ok_bind, splitAt_reverse,
          Checks.ok_bind]
        simp

theorem result_multisignatureByPosition (fits : Fits stack) (enough : 2 ≤ stack.length) :
    ((multisignatureByPosition verify stack.reverse).result : Access Stop StackEffect) =
      .ok (multisignature verify stack) := by
  obtain ⟨keyCount, signatureCount, below, rfl, -⟩ := exists_two enough
  simp only [multisignatureByPosition, peekNumber_reverse, List.getElem?_cons_zero,
    List.getElem?_cons_succ, refuse_reverse, multisignature]
  cases Number.read keyCount with
  | none => rfl
  | some keyNumber =>
      simp only [Checks.ok_bind]
      cases Number.read signatureCount with
      | none => rfl
      | some signatureNumber =>
          simp only [Checks.ok_bind]
          split
          · rfl
          · exact result_signers fits

theorem byPosition_reverse {attest : Attest} (fits : Fits stack)
    (enough : (Operation.attest attest).operands ≤ stack.length) :
    ((attest.byPosition verify stack.reverse).result : Access Stop StackEffect) =
      .ok (attest.effect verify stack) := by
  cases attest with
  | blake3 =>
      obtain ⟨item, below, rfl, -⟩ := exists_top enough
      simp only [byPosition, peek_reverse, List.getElem?_cons_zero, Checks.ok_bind,
        pop_reverse, List.reverse_reverse]
      rfl
  | hash160 =>
      obtain ⟨item, below, rfl, -⟩ := exists_top enough
      have whole : 0 ≤ 20 ∧ 20 ≤ (Digest.hash item).bytes.length := by
        rw [Digest.length_eq]
        decide
      simp only [byPosition, peek_reverse, List.getElem?_cons_zero, Checks.ok_bind,
        pop_reverse, List.reverse_reverse, slice, if_pos whole]
      rfl
  | checkSignature =>
      obtain ⟨key, message, signature, below, rfl, -⟩ := exists_three enough
      simp only [byPosition, peek_reverse, List.getElem?_cons_zero, List.getElem?_cons_succ,
        Checks.ok_bind, pop_reverse, List.reverse_reverse, refuse_reverse, effect]
      split
      · rfl
      · rfl
  | checkMultisignature => exact result_multisignatureByPosition fits enough

end Attest

namespace Observe

variable {stack : List Bytes}

/-- The question is asked when every operand can be read and no number is negative. -/
theorem question_eq (versionItem assetItem amountItem indexItem code : Bytes) :
    question versionItem assetItem amountItem indexItem code =
      match Number.read versionItem, Digest.ofBytes? assetItem, Number.read amountItem,
        Number.read indexItem with
      | some version, some assetId, some sum, some slot =>
          if slot < 0 ∨ sum < 0 ∨ version < 0 then none
          else some {
            index := UInt64.ofNat slot.toNat
            amount := UInt64.ofNat sum.toNat
            asset := assetId
            version := UInt64.ofNat version.toNat
            code := code }
      | _, _, _, _ => none := by
  unfold question natural
  cases Number.read versionItem with
  | none => rfl
  | some version =>
      cases Digest.ofBytes? assetItem with
      | none => simp
      | some assetId =>
          cases Number.read amountItem with
          | none => simp
          | some sum =>
              cases Number.read indexItem with
              | none => simp
              | some slot =>
                  simp only
                  by_cases negative : version < 0
                  · simp [negative]
                  · by_cases negative' : sum < 0
                    · simp [negative, negative']
                    · by_cases negative'' : slot < 0
                      · simp [negative, negative', negative'']
                      · simp [negative, negative', negative'']

theorem result_askByPosition {checker : Option OutputChecker} (enough : 5 ≤ stack.length) :
    ((askByPosition checker stack.reverse).result : Access Stop StackEffect) =
      .ok (askOutput checker stack) := by
  cases checker with
  | none => simp [askByPosition, askOutput]
  | some check =>
      obtain ⟨code, versionItem, assetItem, below, rfl, three⟩ := exists_three enough
      obtain ⟨amountItem, indexItem, below, rfl, -⟩ := exists_two three
      simp only [askByPosition, peekNumber_reverse, peek_reverse, List.getElem?_cons_zero,
        List.getElem?_cons_succ, refuse_reverse, askOutput, question_eq]
      cases Number.read versionItem with
      | none => rfl
      | some version =>
          simp only [Checks.ok_bind]
          cases Digest.ofBytes? assetItem with
          | none => rfl
          | some assetId =>
              simp only [Checks.ok_bind, Checks.pure_eq_ok]
              cases Number.read amountItem with
              | none => rfl
              | some sum =>
                  simp only [Checks.ok_bind]
                  cases Number.read indexItem with
                  | none => rfl
                  | some slot =>
                      simp only [Checks.ok_bind]
                      by_cases negative : slot < 0 ∨ sum < 0 ∨ version < 0
                      · simp only [if_pos negative]
                        rfl
                      · simp only [if_neg negative, pop_reverse, Checks.ok_bind,
                          List.reverse_reverse]
                        rfl

theorem byPosition_reverse {context : Context} {observe : Observe}
    (enough : (Operation.observe observe).operands ≤ stack.length) :
    ((observe.byPosition context stack.reverse).result : Access Stop StackEffect) =
      .ok (observe.effect context stack) := by
  cases observe with
  | checkOutput => exact result_askByPosition enough
  | _ =>
      simp only [byPosition, List.reverse_reverse]
      rfl

end Observe

end EntryLedger
