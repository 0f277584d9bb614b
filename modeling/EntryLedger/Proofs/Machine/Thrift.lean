import EntryLedger.Machine.Machine

/-!
# Effects are thrifty

An item takes as much memory as pushing it costs.  What an operation leaves of a stack
before it pushes takes no more than the stack did, but for what it has paid first: no
operation copies an item or makes a longer one and does not pay.
-/

namespace EntryLedger

/-- The memory that items on a stack take. -/
def held : List Bytes → Nat
  | [] => 0
  | item :: items => Machine.itemCost + item.length + held items

@[simp]
theorem held_nil : held [] = 0 :=
  rfl

@[simp]
theorem held_cons (item : Bytes) (items : List Bytes) :
    held (item :: items) = 8 + item.length + held items :=
  rfl

@[simp]
theorem held_append (upper lower : List Bytes) :
    held (upper ++ lower) = held upper + held lower := by
  induction upper with
  | nil => simp
  | cons item upper ih =>
      simp only [List.cons_append, held_cons, ih]
      omega

theorem held_drop_le (count : Nat) (items : List Bytes) :
    held (items.drop count) ≤ held items := by
  have whole := congrArg held (List.take_append_drop count items)
  rw [held_append] at whole
  omega

/-- An item and the ones around it. -/
theorem held_eraseIdx {items : List Bytes} {index : Nat} {item : Bytes}
    (found : items[index]? = some item) :
    8 + item.length + held (items.eraseIdx index) = held items := by
  induction items generalizing index with
  | nil => simp at found
  | cons first items ih =>
      cases index with
      | zero =>
          cases found
          rfl
      | succ index =>
          have rest := ih found
          simp only [List.eraseIdx_cons_succ, held_cons]
          omega

/-! ### Effects -/

namespace StackEffect

/-- What an effect leaves before it pushes takes no more memory than the stack did,
but for its toll. -/
def Thrifty (effect : StackEffect) (stack : List Bytes) : Prop :=
  held effect.stack ≤ held stack + effect.toll.getD 0

variable {stack left : List Bytes}

@[simp]
theorem thrifty_leave : (leave left).Thrifty stack ↔ held left ≤ held stack :=
  Iff.rfl

@[simp]
theorem thrifty_push {items : List Bytes} :
    (push left items).Thrifty stack ↔ held left ≤ held stack :=
  Iff.rfl

@[simp]
theorem thrifty_fail {fault : Fault} :
    (fail fault left).Thrifty stack ↔ held left ≤ held stack :=
  Iff.rfl

@[simp]
theorem thrifty_missing : (missing left).Thrifty stack ↔ held left ≤ held stack :=
  Iff.rfl

@[simp]
theorem thrifty_after {toll : Nat} {effect : StackEffect} :
    (after toll effect).Thrifty stack ↔ held effect.stack ≤ held stack + toll :=
  Iff.rfl

@[simp]
theorem stack_leave : (leave left).stack = left :=
  rfl

@[simp]
theorem stack_push {items : List Bytes} : (push left items).stack = left :=
  rfl

@[simp]
theorem thrifty_demand {condition : Bool} :
    (demand condition left).Thrifty stack ↔ held left ≤ held stack := by
  unfold demand
  split
  · exact thrifty_leave
  · exact thrifty_fail

@[simp]
theorem thrifty_pushResult {result : Except Fault Bytes} :
    (pushResult left result).Thrifty stack ↔ held left ≤ held stack := by
  cases result with
  | ok item => exact thrifty_push
  | error fault => exact thrifty_fail

end StackEffect

open StackEffect

namespace Shuffle

variable {operand : Bytes} {below : List Bytes}

theorem thrifty_chosen {use : Nat → Bytes → StackEffect}
    (thrifty : ∀ index item, below[index]? = some item →
      (use index item).Thrifty (operand :: below)) :
    (chosen operand below use).Thrifty (operand :: below) := by
  unfold chosen
  split
  · exact Nat.le_refl _
  · split
    · exact Nat.le_refl _
    · split
      · exact Nat.le_refl _
      · rename_i found
        exact thrifty _ _ found

@[simp]
theorem thrifty_pick :
    (chosen operand below fun _ item => push below [item]).Thrifty (operand :: below) := by
  refine thrifty_chosen fun index item _ => ?_
  simp

@[simp]
theorem thrifty_roll :
    (chosen operand below fun index item => leave (item :: below.eraseIdx index)).Thrifty
      (operand :: below) := by
  refine thrifty_chosen fun index item found => ?_
  have whole := held_eraseIdx found
  simp only [thrifty_leave, held_cons]
  omega

/-- Moves keep what is held, and the one copy that is not pushed has a toll. -/
theorem thrifty_effect (shuffle : Shuffle) (stack : List Bytes) :
    (shuffle.effect stack).Thrifty stack := by
  fun_cases effect shuffle stack
  all_goals simp only [thrifty_leave, thrifty_push, thrifty_missing, thrifty_after,
    thrifty_pick, thrifty_roll, stack_leave, held_cons]
  all_goals omega

end Shuffle

namespace Splice

@[simp]
theorem thrifty_pushPart {below stack : List Bytes} {part : Except Fault Bytes} :
    (pushPart stack below part).Thrifty stack ↔
      (part.isOk → held below ≤ held stack) := by
  cases part with
  | ok item => simp [pushPart, Except.isOk, Except.toBool]
  | error fault => simp [pushPart, Except.isOk, Except.toBool]

theorem thrifty_effect (splice : Splice) (stack : List Bytes) :
    (splice.effect stack).Thrifty stack := by
  fun_cases effect splice stack
  all_goals simp only [thrifty_push, thrifty_pushPart, thrifty_missing, held_cons]
  all_goals omega

end Splice

theorem Bitwise.thrifty_effect (bitwise : Bitwise) (stack : List Bytes) :
    (bitwise.effect stack).Thrifty stack := by
  fun_cases effect bitwise stack
  all_goals simp only [thrifty_push, thrifty_demand, thrifty_missing, held_cons]
  all_goals omega

namespace Numeric

variable {stack : List Bytes}

theorem thrifty_withOne {use : Int → List Bytes → StackEffect}
    (thrifty : ∀ number below, held below ≤ held stack → (use number below).Thrifty stack) :
    (withOne stack use).Thrifty stack := by
  fun_cases withOne stack use
  · exact thrifty _ _ (by simp)
  · simp
  · exact Nat.le_refl _

theorem thrifty_withTwo {use : Int → Int → List Bytes → StackEffect}
    (thrifty : ∀ left right below, held below ≤ held stack →
      (use left right below).Thrifty stack) :
    (withTwo stack use).Thrifty stack := by
  fun_cases withTwo stack use
  · refine thrifty _ _ _ ?_
    simp only [held_cons]
    omega
  · exact Nat.le_refl _
  · exact Nat.le_refl _

theorem thrifty_withThree {use : Int → Int → Int → List Bytes → StackEffect}
    (thrifty : ∀ first second third below, held below ≤ held stack →
      (use first second third below).Thrifty stack) :
    (withThree stack use).Thrifty stack := by
  fun_cases withThree stack use
  · refine thrifty _ _ _ _ ?_
    simp only [held_cons]
    omega
  · exact Nat.le_refl _
  · exact Nat.le_refl _

theorem thrifty_effect (numeric : Numeric) (stack : List Bytes) :
    (numeric.effect stack).Thrifty stack := by
  cases numeric with
  | unary function => exact thrifty_withOne fun _ _ le => thrifty_pushResult.mpr le
  | isZero => exact thrifty_withOne fun _ _ le => thrifty_push.mpr le
  | isNonzero => exact thrifty_withOne fun _ _ le => thrifty_push.mpr le
  | binary function =>
      refine thrifty_withTwo fun left right below le => ?_
      split
      · exact thrifty_push.mpr le
      · exact thrifty_fail.mpr (Nat.le_refl _)
  | relation test => exact thrifty_withTwo fun _ _ _ le => thrifty_push.mpr le
  | equalVerify => exact thrifty_withTwo fun _ _ _ le => thrifty_demand.mpr le
  | within => exact thrifty_withThree fun _ _ _ _ le => thrifty_push.mpr le

end Numeric

namespace Attest

theorem stack_judge (good : Bool) (signatures below : List Bytes) :
    (judge good signatures below).stack = below := by
  unfold judge
  split
  · rfl
  · rfl

theorem thrifty_judge {good : Bool} {signatures below stack : List Bytes} :
    (judge good signatures below).Thrifty stack ↔ held below ≤ held stack := by
  unfold judge
  split
  · exact thrifty_fail
  · exact thrifty_push

theorem thrifty_multisignature (verify : SignatureVerifier) (stack : List Bytes) :
    (multisignature verify stack).Thrifty stack := by
  unfold multisignature
  simp only
  split
  · rename_i keyCount signatureCount below
    split
    · rename_i keyNumber signatureNumber _ _
      split
      · exact Nat.le_refl _
      · split
        · exact Nat.le_refl _
        · split
          · exact Nat.le_refl _
          · rename_i message rest found
            split
            · exact Nat.le_refl _
            · split
              · exact Nat.le_refl _
              · -- The keys, the message and the signatures are dropped one after the other.
                have keys := held_drop_le keyNumber.toNat below
                rw [found, held_cons] at keys
                have signatures := held_drop_le signatureNumber.toNat rest
                rw [thrifty_after, stack_judge, held_cons, held_cons]
                omega
    · exact Nat.le_refl _
  · exact Nat.le_refl _

theorem thrifty_effect (verify : SignatureVerifier) (attest : Attest) (stack : List Bytes) :
    (attest.effect verify stack).Thrifty stack := by
  fun_cases effect verify attest stack
  all_goals simp only [thrifty_after, stack_push, thrifty_fail, thrifty_missing,
    thrifty_judge, thrifty_multisignature, held_cons]
  all_goals omega

end Attest

namespace Observe

theorem thrifty_askOutput (checker : Option OutputChecker) (stack : List Bytes) :
    (askOutput checker stack).Thrifty stack := by
  unfold askOutput
  split
  · exact Nat.le_refl _
  · split
    · rename_i code versionItem assetItem amountItem indexItem below
      split
      · exact Nat.le_refl _
      · rename_i query _
        have taken : held below ≤
            held (code :: versionItem :: assetItem :: amountItem :: indexItem :: below) := by
          simp only [held_cons]
          omega
        exact thrifty_pushResult.mpr taken
    · exact Nat.le_refl _

theorem thrifty_effect (context : Context) (observe : Observe) (stack : List Bytes) :
    (observe.effect context stack).Thrifty stack := by
  cases observe with
  | checkOutput => exact thrifty_askOutput context.checkOutput stack
  | signatureHash | program | entryId => exact Nat.le_refl _
  | asset | amount | position | outputId | blockHeight | blockTime =>
      exact thrifty_pushResult.mpr (Nat.le_refl _)

end Observe

end EntryLedger
