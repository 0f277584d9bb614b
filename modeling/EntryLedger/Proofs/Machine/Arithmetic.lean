import EntryLedger.Proofs.Machine.Exact
import EntryLedger.Proofs.Machine.Numerals
import EntryLedger.Proofs.Machine.RunLimit
import Mathlib.Algebra.Order.Ring.Int
import Mathlib.Algebra.Order.Group.Unbundled.Abs

/-!
# Arithmetic is exact

An operation on numbers is computed within a word of 64 bits: remainders are corrected,
shifts are undone to see what they have lost, and counts beyond the word are told apart.  For
operands in the word all of this comes to the integers themselves.  The result is pushed if it
fits the word, and there is one case in which a result is refused although it fits.
-/

namespace EntryLedger

/-! ### Meanings -/

/-- The integer that a function of one number stands for. -/
def Unary.exact : Unary → Int → Int
  | .increment, number => number + 1
  | .decrement, number => number - 1
  | .double, number => 2 * number
  | .halve, number => number.fdiv 2
  | .negate, number => -number
  | .abs, number => |number|

/-- The integer that a function of two numbers stands for.  Division truncates, while the
remainder goes with the quotient that is rounded down and has the sign of the divisor. -/
def Binary.exact : Binary → Int → Int → Except Fault Int
  | .add, left, right => .ok (left + right)
  | .sub, left, right => .ok (left - right)
  | .mul, left, right => .ok (left * right)
  | .div, left, right => if right = 0 then .error .divideByZero else .ok (left.tdiv right)
  | .mod, left, right => if right = 0 then .error .divideByZero else .ok (left.fmod right)
  | .shiftLeft, left, count =>
      if count < 0 then .error .badValue else .ok (left * 2 ^ count.toNat)
  | .shiftRight, left, count =>
      if count < 0 then .error .badValue else .ok (left.fdiv (2 ^ count.toNat))
  | .smaller, left, right => .ok (min left right)
  | .larger, left, right => .ok (max left right)

/-- What a relation says of two numbers, of which zero is the false one. -/
def Relation.Means : Relation → Int → Int → Prop
  | .and, left, right => left ≠ 0 ∧ right ≠ 0
  | .or, left, right => left ≠ 0 ∨ right ≠ 0
  | .equal, left, right => left = right
  | .notEqual, left, right => left ≠ right
  | .less, left, right => left < right
  | .greater, left, right => left > right
  | .lessOrEqual, left, right => left ≤ right
  | .greaterOrEqual, left, right => left ≥ right

theorem Relation.holds_iff (test : Relation) (left right : Int) :
    test.holds left right = true ↔ test.Means left right := by
  cases test with
  | and | or => simp [holds, Means]
  | _ => exact decide_eq_true_iff

instance (test : Relation) (left right : Int) : Decidable (test.Means left right) :=
  decidable_of_iff _ (test.holds_iff left right)

namespace Numeric

/-- What an operation says about some numbers. -/
inductive Answer where
  /-- The result is an integer. -/
  | value (number : Int)
  /-- The result is a truth value. -/
  | truth (value : Bool)
  /-- There is no result, but a condition that has to hold. -/
  | demand (condition : Bool)
  /-- There is no result for these numbers. -/
  | refuse (fault : Fault)
  deriving DecidableEq

/-- What an operation says about its operands, the last of which is on top of the stack. -/
def answer : Numeric → List Int → Answer
  | .unary function, [number] => .value (function.exact number)
  | .isZero, [number] => .truth (number = 0)
  | .isNonzero, [number] => .truth (number ≠ 0)
  | .binary function, [left, right] =>
      match function.exact left right with
      | .ok number => .value number
      | .error fault => .refuse fault
  | .relation test, [left, right] => .truth (test.Means left right)
  | .equalVerify, [left, right] => .demand (left = right)
  | .within, [number, lowest, bound] => .truth (lowest ≤ number ∧ number < bound)
  | _, _ => .refuse .dataStackUnderflow

end Numeric

/-! ### Functions -/

theorem Unary.apply_eq (function : Unary) (number : Int) :
    function.apply number = function.exact number := by
  cases function with
  | increment | decrement | negate => rfl
  | double => exact Int.mul_comm number 2
  | halve =>
      calc number >>> (1 : Nat)
          = number / 2 := Int.shiftRight_eq_div_pow number 1
        _ = number.fdiv 2 := (Int.fdiv_eq_ediv_of_nonneg number (by decide)).symm
  | abs =>
      rw [apply, exact]
      split
      · rename_i negative
        exact (abs_of_neg negative).symm
      · rename_i positive
        exact (abs_of_nonneg (Int.not_lt.mp positive)).symm

namespace Number

variable {left right : Int}

/-- The corrected remainder is the one of the quotient that is rounded down. -/
theorem corrected_eq_fmod (nonzero : right ≠ 0) :
    (if left.tmod right ≠ 0 ∧ decide (left.tmod right < 0) ≠ decide (right < 0)
      then left.tmod right + right else left.tmod right) = left.fmod right := by
  have whole := Int.mul_tdiv_add_tmod left right
  have smaller : (left.tmod right).natAbs < right.natAbs := by
    rw [Int.natAbs_tmod]
    exact Nat.mod_lt _ (Int.natAbs_pos.mpr nonzero)
  have previous : right * (left.tdiv right - 1) = right * left.tdiv right - right := by
    rw [Int.mul_sub, Int.mul_one]
  simp only [ne_eq, decide_eq_decide]
  symm
  rcases Int.lt_or_gt_of_ne nonzero with negative | positive
  · split
    · exact ((Int.fdiv_fmod_unique' (q := left.tdiv right - 1) negative).mpr (by omega)).2
    · exact ((Int.fdiv_fmod_unique' (q := left.tdiv right) negative).mpr (by omega)).2
  · split
    · exact ((Int.fdiv_fmod_unique (q := left.tdiv right - 1) positive).mpr (by omega)).2
    · exact ((Int.fdiv_fmod_unique (q := left.tdiv right) positive).mpr (by omega)).2

/-- A remainder lies between zero and the divisor. -/
theorem fits_fmod (rightFits : fits right = true) (nonzero : right ≠ 0) :
    fits (left.fmod right) = true := by
  rw [fits_iff] at rightFits ⊢
  rcases Int.lt_or_gt_of_ne nonzero with negative | positive
  · obtain ⟨-, above, below⟩ := (Int.fdiv_fmod_unique' (a := left) negative).mp ⟨rfl, rfl⟩
    omega
  · obtain ⟨-, above, below⟩ := (Int.fdiv_fmod_unique (a := left) positive).mp ⟨rfl, rfl⟩
    omega

/-- One quotient is out of the word, and that only just. -/
theorem fits_tdiv (leftFits : fits left = true)
    (regular : ¬ (left = -0x8000000000000000 ∧ right = -1)) :
    fits (left.tdiv right) = true := by
  rw [fits_iff] at leftFits ⊢
  have quotient : (left.tdiv right).natAbs = left.natAbs / right.natAbs :=
    Int.natAbs_tdiv left right
  by_cases unit : right = 1
  · rw [unit, Int.tdiv_one]
    exact leftFits
  · by_cases opposite : right = -1
    · rw [opposite, Int.tdiv_neg, Int.tdiv_one]
      omega
    · by_cases zero : right = 0
      · rw [zero, Int.tdiv_zero]
        decide
      · have half : left.natAbs / right.natAbs ≤ left.natAbs / 2 :=
          Nat.div_le_div_left (by omega) (by decide)
        omega

/-- A quotient that is rounded down stays in the word. -/
theorem fits_ediv (leftFits : fits left = true) (positive : 0 < right) :
    fits (left / right) = true := by
  rw [fits_iff] at leftFits ⊢
  constructor
  · apply (Int.le_ediv_iff_mul_le positive).mpr
    calc (-0x8000000000000000) * right
        ≤ (-0x8000000000000000) * 1 := Int.mul_le_mul_of_nonpos_left (by decide) positive
      _ ≤ left := leftFits.1
  · apply (Int.ediv_lt_iff_lt_mul positive).mpr
    calc left
        < 0x8000000000000000 * 1 := leftFits.2
      _ ≤ 0x8000000000000000 * right := Int.mul_le_mul_of_nonneg_left positive (by decide)

/-- A shift in the word is undone exactly if it has lost nothing. -/
theorem bmod_shiftRight_iff {count : Nat} (few : count ≤ 63) :
    Int.bmod (left <<< count) 0x10000000000000000 >>> count = left ↔
      fits (left * 2 ^ count) = true := by
  have positive : (0 : Int) < 2 ^ count := Int.pow_pos (by decide)
  rw [Int.shiftLeft_eq, Int.shiftRight_eq_div_pow, Int.natCast_pow, fits_iff]
  constructor
  · intro undone
    -- What is left in the word is a multiple of the power, as the word itself is.
    have lost : (2 ^ count : Int) ∣ Int.bmod (left * 2 ^ count) 0x10000000000000000 -
        left * 2 ^ count :=
      Int.dvd_trans (pow_dvd_pow (2 : Int) (by omega : count ≤ 64)) Int.dvd_bmod_sub_self
    have multiple : (2 ^ count : Int) ∣ Int.bmod (left * 2 ^ count) 0x10000000000000000 :=
      (Int.dvd_iff_dvd_of_dvd_sub lost).mpr (Int.dvd_mul_left left _)
    have kept : left * 2 ^ count = Int.bmod (left * 2 ^ count) 0x10000000000000000 :=
      calc left * 2 ^ count
          = Int.bmod (left * 2 ^ count) 0x10000000000000000 / 2 ^ count * 2 ^ count :=
            congrArg (· * 2 ^ count) undone.symm
        _ = Int.bmod (left * 2 ^ count) 0x10000000000000000 := Int.ediv_mul_cancel multiple
    have least := Int.le_bmod (x := left * 2 ^ count) (m := 0x10000000000000000) (by decide)
    have greatest := Int.bmod_lt (x := left * 2 ^ count) (m := 0x10000000000000000) (by decide)
    omega
  · rintro ⟨least, greatest⟩
    rw [Int.bmod_eq_of_le (by omega) (by omega)]
    exact Int.mul_ediv_cancel left positive.ne'

theorem shiftLeft_eq {count : Nat} (few : count ≤ 63) :
    (let word := Int.bmod (left <<< count) 0x10000000000000000
      if word >>> count = left then Except.ok word else .error .rangeError) =
      checked (left * 2 ^ count) := by
  by_cases inWord : fits (left * 2 ^ count) = true
  · rw [checked, if_pos inWord]
    refine (if_pos ((bmod_shiftRight_iff few).mpr inWord)).trans ?_
    rw [fits_iff] at inWord
    rw [Int.shiftLeft_eq, Int.bmod_eq_of_le (by omega) (by omega)]
  · rw [checked, if_neg inWord]
    exact if_neg fun undone => inWord ((bmod_shiftRight_iff few).mp undone)

/-- A shift beyond the word leaves nothing of a number but its sign. -/
theorem ediv_pow_of_many {count : Nat} (leftFits : fits left = true) (many : 63 < count) :
    left / 2 ^ count = if left < 0 then -1 else 0 := by
  have large : (2 : Int) ^ 63 ≤ 2 ^ count := pow_le_pow_right₀ (by decide) (by omega)
  rw [fits_iff] at leftFits
  split
  · exact ((Int.ediv_emod_unique (r := left + 2 ^ count) (by omega)).mpr (by omega)).1
  · exact Int.ediv_eq_zero_of_lt (by omega) (by omega)

/-- A shift beyond the word does not fit it, unless zero is shifted. -/
theorem not_fits_of_many {count : Nat} (nonzero : left ≠ 0) (many : 63 < count) :
    ¬ fits (left * 2 ^ count) = true := by
  have large : (2 : Int) ^ 64 ≤ 2 ^ count := pow_le_pow_right₀ (by decide) (by omega)
  rw [fits_iff]
  rintro ⟨least, greatest⟩
  rcases Int.lt_or_gt_of_ne nonzero with negative | positive
  · have product : left * 2 ^ count ≤ -1 * 2 ^ count :=
      Int.mul_le_mul_of_nonneg_right (by omega) (by omega)
    omega
  · have product : 1 * 2 ^ count ≤ left * 2 ^ count :=
      Int.mul_le_mul_of_nonneg_right positive (by omega)
    omega

theorem checked_of_fits {number : Int} (inWord : fits number = true) :
    checked number = .ok number :=
  if_pos inWord

end Number

/-- On numbers in the word a function gives its integer if that fits the word, but for the
remainder whose quotient does not fit. -/
theorem Binary.apply_eq (function : Binary) {left right : Int}
    (leftFits : Number.fits left = true) (rightFits : Number.fits right = true)
    (regular : ¬ (function = .mod ∧ left = -0x8000000000000000 ∧ right = -1)) :
    function.apply left right = function.exact left right >>= Number.checked := by
  cases function with
  | add | sub | mul => rfl
  | div =>
      rw [apply, exact]
      split
      · rfl
      · rfl
  | mod =>
      rw [apply, exact]
      split
      · rfl
      · rename_i nonzero
        have quotient := Number.fits_tdiv leftFits fun extreme => regular ⟨rfl, extreme⟩
        rw [if_neg (by rw [quotient]; decide)]
        calc (if left.tmod right ≠ 0 ∧ decide (left.tmod right < 0) ≠ decide (right < 0)
              then Except.ok (left.tmod right + right) else .ok (left.tmod right))
            = .ok (if left.tmod right ≠ 0 ∧ decide (left.tmod right < 0) ≠ decide (right < 0)
              then left.tmod right + right else left.tmod right) := (apply_ite _ _ _ _).symm
          _ = .ok (left.fmod right) := congrArg _ (Number.corrected_eq_fmod nonzero)
          _ = Number.checked (left.fmod right) :=
            (Number.checked_of_fits (Number.fits_fmod rightFits nonzero)).symm
  | shiftLeft =>
      rw [apply, exact]
      split
      · rfl
      · by_cases zero : left = 0
        · rw [if_pos zero, zero, Int.zero_mul]
          rfl
        · rw [if_neg zero]
          split
          · exact (if_neg (Number.not_fits_of_many zero (by omega))).symm
          · exact Number.shiftLeft_eq (by omega)
  | shiftRight =>
      rw [apply, exact]
      split
      · rfl
      · have positive : (0 : Int) < 2 ^ right.toNat := Int.pow_pos (by decide)
        rw [Int.fdiv_eq_ediv_of_nonneg left (Int.le_of_lt positive)]
        refine Eq.trans ?_ (Number.checked_of_fits (Number.fits_ediv leftFits positive)).symm
        split
        · rw [Number.ediv_pow_of_many leftFits (by omega)]
        · rw [Int.shiftRight_eq_div_pow, Int.natCast_pow]
          rfl
  | smaller =>
      refine (Number.checked_of_fits ?_).symm
      rcases min_choice left right with same | same
      · rw [same]
        exact leftFits
      · rw [same]
        exact rightFits
  | larger =>
      refine (Number.checked_of_fits ?_).symm
      rcases max_choice left right with same | same
      · rw [same]
        exact leftFits
      · rw [same]
        exact rightFits

namespace Numeric

/-! ### Effects -/

/-- The stack after a failure on the operands: a single operand is taken before it is read,
several are read before they are taken. -/
def refused (operands below : List Bytes) : List Bytes :=
  if operands.length = 1 then below else operands.reverse ++ below

/-- The effect of an answer that leaves a stack, or another one if there is no result. -/
def Answer.effect (below left : List Bytes) : Answer → StackEffect
  | .value number =>
      if Number.fits number then .push below [Number.write number] else .fail .rangeError left
  | .truth holds => .push below [Number.ofTruth holds]
  | .demand condition => .demand condition below
  | .refuse fault => .fail fault left

section Operands

variable {operation : Numeric} {operands below : List Bytes}

section WithOne

variable {operand : Bytes} {use : Int → List Bytes → StackEffect}

theorem withOne_of_short (short : operand.length ≤ 8) :
    withOne (operand :: below) use = use (Number.word operand) below := by
  rw [withOne, Number.read_of_short short]

theorem withOne_of_long (long : 8 < operand.length) :
    withOne (operand :: below) use = .fail .badValue below := by
  rw [withOne, Number.read_of_long long]

end WithOne

section WithTwo

variable {left right : Bytes} {use : Int → Int → List Bytes → StackEffect}

theorem withTwo_of_short (leftShort : left.length ≤ 8) (rightShort : right.length ≤ 8) :
    withTwo (right :: left :: below) use =
      use (Number.word left) (Number.word right) below := by
  rw [withTwo, Number.read_of_short leftShort, Number.read_of_short rightShort]

theorem withTwo_of_long (long : 8 < left.length ∨ 8 < right.length) :
    withTwo (right :: left :: below) use = .fail .badValue (right :: left :: below) := by
  rw [withTwo]
  rcases long with long | long
  · rw [Number.read_of_long long]
    cases Number.read right <;> rfl
  · rw [Number.read_of_long long]

end WithTwo

section WithThree

variable {first second third : Bytes} {use : Int → Int → Int → List Bytes → StackEffect}

theorem withThree_of_short (firstShort : first.length ≤ 8) (secondShort : second.length ≤ 8)
    (thirdShort : third.length ≤ 8) :
    withThree (third :: second :: first :: below) use =
      use (Number.word first) (Number.word second) (Number.word third) below := by
  rw [withThree, Number.read_of_short firstShort, Number.read_of_short secondShort,
    Number.read_of_short thirdShort]

theorem withThree_of_long (long : 8 < first.length ∨ 8 < second.length ∨ 8 < third.length) :
    withThree (third :: second :: first :: below) use =
      .fail .badValue (third :: second :: first :: below) := by
  rw [withThree]
  rcases long with long | long | long
  · rw [Number.read_of_long long]
    cases Number.read third <;> cases Number.read second <;> rfl
  · rw [Number.read_of_long long]
    cases Number.read third <;> rfl
  · rw [Number.read_of_long long]

end WithThree

/-- An operand that is too long is no number. -/
theorem effect_of_long (counted : operands.length = (Operation.numeric operation).operands)
    (long : ∃ operand ∈ operands, 8 < operand.length) :
    operation.effect (operands.reverse ++ below) = .fail .badValue (refused operands below) := by
  cases operation with
  | unary | isZero | isNonzero =>
      obtain ⟨operand, rfl⟩ := List.length_eq_one_iff.mp counted
      rw [effect]
      exact withOne_of_long (by simpa using long)
  | binary | relation | equalVerify =>
      obtain ⟨left, right, rfl⟩ := List.length_eq_two.mp counted
      rw [effect]
      exact withTwo_of_long (by simpa using long)
  | within =>
      obtain ⟨first, second, third, rfl⟩ := List.length_eq_three.mp counted
      rw [effect]
      exact withThree_of_long (by simpa using long)

/-- Short operands are words, about which the answer of the operation is carried out. -/
theorem effect_of_short (counted : operands.length = (Operation.numeric operation).operands)
    (short : ∀ operand ∈ operands, operand.length ≤ 8)
    (regular : ¬ (operation = .binary .mod ∧
      operands.map Number.word = [-0x8000000000000000, -1])) :
    operation.effect (operands.reverse ++ below) =
      (operation.answer (operands.map Number.word)).effect below (refused operands below) := by
  cases operation with
  | unary function =>
      obtain ⟨operand, rfl⟩ := List.length_eq_one_iff.mp counted
      rw [effect]
      change withOne (operand :: below) _ = _
      rw [withOne_of_short (short operand (by simp))]
      simp only [List.map_singleton, answer, Answer.effect, function.apply_eq, Number.checked]
      split
      · rfl
      · rfl
  | isZero | isNonzero =>
      obtain ⟨operand, rfl⟩ := List.length_eq_one_iff.mp counted
      rw [effect]
      change withOne (operand :: below) _ = _
      rw [withOne_of_short (short operand (by simp))]
      rfl
  | binary function =>
      obtain ⟨left, right, rfl⟩ := List.length_eq_two.mp counted
      have computed := function.apply_eq (Number.fits_word left) (Number.fits_word right)
        fun ⟨isMod, isLeast, isOpposite⟩ =>
          regular ⟨by rw [isMod], by simp [isLeast, isOpposite]⟩
      rw [effect]
      change withTwo (right :: left :: below) _ = _
      rw [withTwo_of_short (short left (by simp)) (short right (by simp))]
      simp only [computed, List.map_cons, List.map_nil, answer]
      cases function.exact (Number.word left) (Number.word right) with
      | error fault => rfl
      | ok number =>
          simp only [Checks.ok_bind, Number.checked, Answer.effect]
          by_cases inWord : Number.fits number = true
          · simp only [if_pos inWord]
          · simp only [if_neg inWord]
            rfl
  | relation test =>
      obtain ⟨left, right, rfl⟩ := List.length_eq_two.mp counted
      rw [effect]
      change withTwo (right :: left :: below) _ = _
      rw [withTwo_of_short (short left (by simp)) (short right (by simp))]
      simp only [List.map_cons, List.map_nil, answer, Answer.effect, ← test.holds_iff,
        Bool.decide_eq_true]
  | equalVerify =>
      obtain ⟨left, right, rfl⟩ := List.length_eq_two.mp counted
      rw [effect]
      change withTwo (right :: left :: below) _ = _
      rw [withTwo_of_short (short left (by simp)) (short right (by simp))]
      rfl
  | within =>
      obtain ⟨first, second, third, rfl⟩ := List.length_eq_three.mp counted
      rw [effect]
      change withThree (third :: second :: first :: below) _ = _
      rw [withThree_of_short (short first (by simp)) (short second (by simp))
        (short third (by simp))]
      simp only [List.map_cons, List.map_nil, answer, Answer.effect, Bool.decide_and]

/-- The least word has no quotient by minus one, and no remainder for want of it. -/
theorem effect_of_extreme (isMod : operation = .binary .mod)
    (short : ∀ operand ∈ operands, operand.length ≤ 8)
    (extreme : operands.map Number.word = [-0x8000000000000000, -1]) :
    operation.effect (operands.reverse ++ below) =
      .fail .rangeError (refused operands below) := by
  obtain ⟨left, right, rfl⟩ := List.length_eq_two.mp
    ((List.length_map _).symm.trans (congrArg List.length extreme))
  obtain ⟨isLeast, isOpposite⟩ : Number.word left = -0x8000000000000000 ∧
      Number.word right = -1 := by
    simpa using extreme
  rw [isMod, effect]
  change withTwo (right :: left :: below) _ = _
  rw [withTwo_of_short (short left (by simp)) (short right (by simp)), isLeast, isOpposite]
  rfl

end Operands

/-- What an effect comes to that is the one of an answer, if it is known what pushes and failures
come to. -/
theorem Answer.outcome_of_effect {answer : Answer} {effect : StackEffect}
    {below left : List Bytes} {late : Prop} {pushes : List Bytes → Prop}
    {fails : Fault → List Bytes → Prop}
    (pushing : ∀ items, effect = .push below items → held items ≤ 16 → late ∨ pushes items)
    (failing : ∀ fault left, effect = .fail fault left → late ∨ fails fault left) :
    effect = answer.effect below left → late ∨
      match answer with
      | .value number =>
          if -0x8000000000000000 ≤ number ∧ number < 0x8000000000000000 then
            ∃ item, Number.Minimal number item ∧ pushes [item]
          else fails .rangeError left
      | .truth holds => pushes [Number.ofTruth holds]
      | .demand condition => if condition then pushes [] else fails .verifyFailed below
      | .refuse fault => fails fault left := by
  intro effective
  cases answer with
  | value number =>
      rw [Answer.effect] at effective
      simp only
      by_cases inWord : Number.fits number = true
      · have minimal := Number.minimal_write inWord
        have size := (Number.read_eq_some_iff.mp minimal.read).1
        rw [if_pos inWord] at effective
        rw [if_pos (Number.fits_iff.mp inWord)]
        refine (pushing _ effective ?_).imp_right fun pushed => ⟨_, minimal, pushed⟩
        rw [held_cons, held_nil]
        omega
      · rw [if_neg inWord] at effective
        rw [if_neg (mt Number.fits_iff.mpr inWord)]
        exact failing _ _ effective
  | truth holds =>
      have size := Number.length_ofTruth_le holds
      apply pushing _ effective
      rw [held_cons, held_nil]
      omega
  | demand condition =>
      cases condition with
      | true => exact pushing [] effective (Nat.zero_le 16)
      | false => exact failing _ _ effective
  | refuse fault => exact failing _ _ effective

end Numeric

namespace Machine

/-! ### Steps -/

/-- With gas for one item, an operation on numbers fails on an operand of more than eight bytes
and otherwise takes the operands for two's complement words.  It pushes the shortest item of the
integer that it stands for if that fits the word, and fails with a range error if not, it pushes
the truth of what it says, or it fails if its condition does not hold or there is no result; only
the remainder of the least word by minus one fits and is a range error all the same.  Two
operands or more are still on the stack after a failure, other than that of a condition. -/
theorem numeric_exact (context : Context) {machine : Machine} {instruction : Instruction}
    {operation : Numeric} {operands below : List Bytes}
    (fetched : machine.fetch = .ok (instruction, .numeric operation))
    (room : machine.position + instruction.length < 0x100000000)
    (stacked : machine.stack = operands.reverse ++ below)
    (counted : operands.length = (Operation.numeric operation).operands)
    (enough : (Operation.numeric operation).cost + 16 ≤ machine.credit) :
    let ended := (step context).run machine
    let numbers := operands.map Number.word
    let late := machine.books.meter.expired = true ∧
      ∃ after, ended = .error (.fault .deadlineExceeded) after
    let pushes (items : List Bytes) := ∃ after, ended = .ok none after ∧
      after.stack = items.reverse ++ below ∧ after.alt = machine.alt ∧
      after.position = machine.position + instruction.length ∧
      Spends ((Operation.numeric operation).cost + held items) machine after
    let fails (fault : Fault) (left : List Bytes) := ∃ after,
      ended = .error (.fault fault) after ∧ after.stack = left ∧ after.alt = machine.alt ∧
      Spends (Operation.numeric operation).cost machine after
    let refused := if operands.length = 1 then below else machine.stack
    late ∨
      if ∃ operand ∈ operands, 8 < operand.length then fails .badValue refused
      else if operation = .binary .mod ∧ numbers = [-0x8000000000000000, -1] then
        fails .rangeError refused
      else
        match operation.answer numbers with
        | .value number =>
            if -0x8000000000000000 ≤ number ∧ number < 0x8000000000000000 then
              ∃ item, Number.Minimal number item ∧ pushes [item]
            else fails .rangeError refused
        | .truth value => pushes [Number.ofTruth value]
        | .demand condition => if condition then pushes [] else fails .verifyFailed below
        | .refuse fault => fails fault refused := by
  intro ended numbers late pushes fails refused
  have allowed : machine.allow instruction (.numeric operation) = .ok () := by
    refine allow_eq_ok ?_ room
    rw [stacked, List.length_append, List.length_reverse, counted]
    exact Nat.le_add_right _ _
  have left : Numeric.refused operands below = refused := by
    unfold Numeric.refused
    rw [← stacked]
  have pushing (items : List Bytes)
      (effective : operation.effect machine.stack = .push below items)
      (few : held items ≤ 16) : late ∨ pushes items := by
    have gas : (StackEffect.push below items).gas = held items := Nat.zero_add _
    have ends : late ∨ _ := ends_of_affect rfl effective fetched allowed (by omega) rfl
    rw [gas] at ends
    exact ends
  have failing (fault : Fault) (left : List Bytes)
      (effective : operation.effect machine.stack = .fail fault left) : late ∨ fails fault left :=
    ends_of_affect_error rfl effective fetched allowed (Nat.le_of_add_right_le enough) rfl
  by_cases long : ∃ operand ∈ operands, 8 < operand.length
  · rw [if_pos long]
    apply failing
    rw [stacked, Numeric.effect_of_long counted long, left]
  · have short : ∀ operand ∈ operands, operand.length ≤ 8 := by simpa using long
    rw [if_neg long]
    by_cases extreme : operation = .binary .mod ∧ numbers = [-0x8000000000000000, -1]
    · rw [if_pos extreme]
      apply failing
      rw [stacked, Numeric.effect_of_extreme extreme.1 short extreme.2, left]
    · rw [if_neg extreme]
      apply Numeric.Answer.outcome_of_effect pushing failing
      rw [stacked, Numeric.effect_of_short counted short extreme, left]

/-- The divisor is on top of the dividend. -/
def remainderMachine : Machine :=
  { start [0x97] 1 (.ofMeter (.flat 100) false) with
    stack := [[2], Number.write (-7), [9]] }

/-- The remainder of minus seven by two is one. -/
theorem numeric_exact_of_remainderMachine :
    ∃ after, (step bareContext).run remainderMachine = .ok none after ∧
      after.stack = [[1], [9]] ∧ Spends 17 remainderMachine after := by
  have fetched : remainderMachine.fetch =
      .ok ({ opcode := 0x97, length := 1, data := [] }, .numeric (.binary .mod)) := by
    decide +kernel
  have computed := numeric_exact bareContext fetched (by decide)
    (show remainderMachine.stack = [Number.write (-7), [2]].reverse ++ [[9]] from rfl)
    (by decide) (by decide)
  have said : Numeric.answer (.binary .mod) ([Number.write (-7), [2]].map Number.word) =
      .value 1 := by
    decide +kernel
  rcases computed with ⟨expired, -⟩ | computed
  · exact absurd expired (by decide)
  · rw [if_neg (by decide), if_neg (by decide +kernel), said] at computed
    simp only at computed
    rw [if_pos (by decide)] at computed
    obtain ⟨item, minimal, after, ran, items, -, -, spends⟩ := computed
    obtain rfl : item = [1] := minimal.unique (Number.minimal_write (by decide))
    exact ⟨after, ran, items, spends⟩

end Machine

end EntryLedger
