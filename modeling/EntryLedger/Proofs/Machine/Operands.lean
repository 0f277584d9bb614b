import EntryLedger.Machine.Operation.Attest
import EntryLedger.Machine.Operation.Bitwise
import EntryLedger.Machine.Operation.Numeric
import EntryLedger.Machine.Operation.Observe
import EntryLedger.Machine.Operation.Shuffle
import EntryLedger.Machine.Operation.Splice

/-!
# Operations find their operands

An operation is only carried out on a stack that holds as many items as it
needs.  On such a stack it may fail, but it never misses an operand.
-/

namespace EntryLedger

/-- A stack that holds one item more than some number has a top. -/
theorem exists_top {count : Nat} {stack : List Bytes} (enough : count + 1 ≤ stack.length) :
    ∃ top below, stack = top :: below ∧ count ≤ below.length := by
  cases stack with
  | nil => simp at enough
  | cons top below => exact ⟨top, below, rfl, by simpa using enough⟩

theorem exists_two {count : Nat} {stack : List Bytes} (enough : count + 2 ≤ stack.length) :
    ∃ first second below, stack = first :: second :: below ∧ count ≤ below.length := by
  obtain ⟨first, below, rfl, one⟩ := exists_top enough
  obtain ⟨second, below, rfl, rest⟩ := exists_top one
  exact ⟨first, second, below, rfl, rest⟩

theorem exists_three {count : Nat} {stack : List Bytes} (enough : count + 3 ≤ stack.length) :
    ∃ first second third below,
      stack = first :: second :: third :: below ∧ count ≤ below.length := by
  obtain ⟨first, second, below, rfl, two⟩ := exists_two enough
  obtain ⟨third, below, rfl, rest⟩ := exists_top two
  exact ⟨first, second, third, below, rfl, rest⟩

namespace StackEffect

/-- An effect of an operation that has found its operands. -/
def Served (effect : StackEffect) : Prop :=
  ∀ cause, effect.outcome ≠ .error (.breach cause)

variable (stack items : List Bytes)

@[simp]
theorem served_leave : (leave stack).Served := by
  simp [Served, leave]

@[simp]
theorem served_push : (push stack items).Served := by
  simp [Served, push]

@[simp]
theorem served_fail (fault : Fault) : (fail fault stack).Served := by
  simp [Served, fail]

@[simp]
theorem served_after (toll : Nat) (effect : StackEffect) :
    (after toll effect).Served ↔ effect.Served :=
  Iff.rfl

@[simp]
theorem served_demand (condition : Bool) : (demand condition stack).Served := by
  unfold demand
  split
  · exact served_leave stack
  · exact served_fail stack _

@[simp]
theorem served_pushResult (result : Except Fault Bytes) :
    (pushResult stack result).Served := by
  cases result with
  | ok item => exact served_push stack [item]
  | error fault => exact served_fail stack fault

end StackEffect

open StackEffect

/-! ### Moves, copies, and cuts -/

theorem Shuffle.served_chosen {operand : Bytes} {below : List Bytes}
    {use : Nat → Bytes → StackEffect} (served : ∀ index item, (use index item).Served) :
    (chosen operand below use).Served := by
  unfold chosen
  split
  · exact served_fail _ _
  · split
    · exact served_fail _ _
    · split
      · exact served_fail _ _
      · exact served _ _

theorem Shuffle.served_effect {shuffle : Shuffle} {stack : List Bytes}
    (enough : (Operation.shuffle shuffle).operands ≤ stack.length) :
    (shuffle.effect stack).Served := by
  cases shuffle with
  | depth => exact served_push _ _
  | ifDup =>
      obtain ⟨first, below, rfl, -⟩ := exists_top enough
      simp only [effect]
      split
      · exact served_push _ _
      · exact served_leave _
  | pick | roll =>
      obtain ⟨operand, below, rfl, -⟩ := exists_top enough
      apply served_chosen
      simp
  | drop | dup =>
      obtain ⟨first, below, rfl, -⟩ := exists_top enough
      simp [effect]
  | drop2 | dup2 | nip | «over» | swap | tuck =>
      obtain ⟨first, second, below, rfl, -⟩ := exists_two enough
      simp [effect]
  | dup3 | rot =>
      obtain ⟨first, second, third, below, rfl, -⟩ := exists_three enough
      simp [effect]
  | over2 | swap2 =>
      obtain ⟨first, second, below, rfl, two⟩ := exists_two enough
      obtain ⟨third, fourth, below, rfl, -⟩ := exists_two two
      simp [effect]
  | rot2 =>
      obtain ⟨first, second, third, below, rfl, three⟩ := exists_three enough
      obtain ⟨fourth, fifth, sixth, below, rfl, -⟩ := exists_three three
      simp [effect]

theorem Splice.served_pushPart {stack below : List Bytes} (part : Except Fault Bytes) :
    (pushPart stack below part).Served := by
  cases part with
  | ok item => exact served_push _ _
  | error fault => exact served_fail _ _

theorem Splice.served_effect {splice : Splice} {stack : List Bytes}
    (enough : (Operation.splice splice).operands ≤ stack.length) :
    (splice.effect stack).Served := by
  cases splice with
  | size =>
      obtain ⟨first, below, rfl, -⟩ := exists_top enough
      exact served_push _ _
  | concat | concatPush =>
      obtain ⟨second, first, below, rfl, -⟩ := exists_two enough
      exact served_push _ _
  | left | right =>
      obtain ⟨operand, text, below, rfl, -⟩ := exists_two enough
      exact served_pushPart _
  | substring =>
      obtain ⟨second, first, text, below, rfl, -⟩ := exists_three enough
      exact served_pushPart _

theorem Bitwise.served_effect {bitwise : Bitwise} {stack : List Bytes}
    (enough : (Operation.bitwise bitwise).operands ≤ stack.length) :
    (bitwise.effect stack).Served := by
  cases bitwise with
  | invert =>
      obtain ⟨first, below, rfl, -⟩ := exists_top enough
      exact served_push _ _
  | and | or | xor | equal | equalVerify =>
      obtain ⟨second, first, below, rfl, -⟩ := exists_two enough
      simp [effect]

/-! ### Arithmetic -/

namespace Numeric

variable {stack : List Bytes}

theorem served_withOne {use : Int → List Bytes → StackEffect} (enough : 1 ≤ stack.length)
    (served : ∀ number below, (use number below).Served) : (withOne stack use).Served := by
  obtain ⟨operand, below, rfl, -⟩ := exists_top enough
  unfold withOne
  simp only
  split
  · exact served _ _
  · exact served_fail _ _

theorem served_withTwo {use : Int → Int → List Bytes → StackEffect}
    (enough : 2 ≤ stack.length) (served : ∀ left right below, (use left right below).Served) :
    (withTwo stack use).Served := by
  obtain ⟨right, left, below, rfl, -⟩ := exists_two enough
  unfold withTwo
  simp only
  split
  · exact served _ _ _
  · exact served_fail _ _

theorem served_withThree {use : Int → Int → Int → List Bytes → StackEffect}
    (enough : 3 ≤ stack.length)
    (served : ∀ first second third below, (use first second third below).Served) :
    (withThree stack use).Served := by
  obtain ⟨third, second, first, below, rfl, -⟩ := exists_three enough
  unfold withThree
  simp only
  split
  · exact served _ _ _ _
  · exact served_fail _ _

theorem served_effect {numeric : Numeric}
    (enough : (Operation.numeric numeric).operands ≤ stack.length) :
    (numeric.effect stack).Served := by
  cases numeric with
  | unary function => exact served_withOne enough fun _ _ => served_pushResult _ _
  | isZero => exact served_withOne enough fun _ _ => served_push _ _
  | isNonzero => exact served_withOne enough fun _ _ => served_push _ _
  | binary function =>
      refine served_withTwo enough fun left right below => ?_
      split
      · exact served_push _ _
      · exact served_fail _ _
  | relation test => exact served_withTwo enough fun _ _ _ => served_push _ _
  | equalVerify => exact served_withTwo enough fun _ _ _ => served_demand _ _
  | within => exact served_withThree enough fun _ _ _ _ => served_push _ _

end Numeric

/-! ### Signatures and the context -/

namespace Attest

theorem served_judge (good : Bool) (signatures below : List Bytes) :
    (judge good signatures below).Served := by
  unfold judge
  split
  · exact served_fail _ _
  · exact served_push _ _

theorem served_multisignature {verify : SignatureVerifier} {stack : List Bytes}
    (enough : 2 ≤ stack.length) : (multisignature verify stack).Served := by
  obtain ⟨keyCount, signatureCount, below, rfl, -⟩ := exists_two enough
  unfold multisignature
  simp only
  split
  · rename_i keyNumber signatureNumber _ _
    split
    · exact served_fail _ _
    · split
      · exact served_fail _ _
      · rename_i many
        split
        · -- The message lies below the keys, and the stack is long enough for it.
          rename_i nothingBelow
          have short := congrArg List.length nothingBelow
          simp only [List.length_drop, List.length_nil] at short
          omega
        · split
          · exact served_fail _ _
          · split
            · exact served_fail _ _
            · rw [served_after]
              exact served_judge _ _ _
  · exact served_fail _ _

theorem served_effect {verify : SignatureVerifier} {attest : Attest} {stack : List Bytes}
    (enough : (Operation.attest attest).operands ≤ stack.length) :
    (attest.effect verify stack).Served := by
  cases attest with
  | blake3 | hash160 =>
      obtain ⟨item, below, rfl, -⟩ := exists_top enough
      simp [effect]
  | checkSignature =>
      obtain ⟨key, message, signature, below, rfl, -⟩ := exists_three enough
      simp only [effect]
      split
      · exact served_fail _ _
      · exact served_judge _ _ _
  | checkMultisignature => exact served_multisignature enough

end Attest

theorem Observe.served_askOutput {checker : Option OutputChecker} {stack : List Bytes}
    (enough : 5 ≤ stack.length) : (askOutput checker stack).Served := by
  obtain ⟨code, versionItem, assetItem, below, rfl, three⟩ := exists_three enough
  obtain ⟨amountItem, indexItem, below, rfl, -⟩ := exists_two three
  unfold askOutput
  split
  · exact served_fail _ _
  · simp only
    split
    · exact served_fail _ _
    · exact served_pushResult below _

theorem Observe.served_effect {context : Context} {observe : Observe} {stack : List Bytes}
    (enough : (Operation.observe observe).operands ≤ stack.length) :
    (observe.effect context stack).Served := by
  cases observe with
  | checkOutput => exact served_askOutput enough
  | signatureHash | program | entryId => exact served_push _ _
  | asset | amount | position | outputId | blockHeight | blockTime =>
      exact served_pushResult _ _

end EntryLedger
