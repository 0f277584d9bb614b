import EntryLedger.Proofs.Machine.Positional.Access
import EntryLedger.Proofs.Machine.Thrift

/-!
# Effects push short items

An item that is pushed is not much longer than what it was made of.  Only an operation
that joins two items can make one that is too long for memory.
-/

namespace EntryLedger

/-- Items that fit memory. -/
structure Fits (items : List Bytes) : Prop where
  count : items.length ≤ maxSize
  lengths : ∀ item ∈ items, item.length ≤ maxSize

instance (items : List Bytes) : Decidable (Fits items) :=
  decidable_of_iff (items.length ≤ maxSize ∧ ∀ item ∈ items, item.length ≤ maxSize)
    ⟨fun fits => ⟨fits.1, fits.2⟩, fun fits => ⟨fits.count, fits.lengths⟩⟩

theorem Fits.le_maxWord {items : List Bytes} (fits : Fits items) :
    items.length ≤ maxWord :=
  Nat.le_trans fits.count (by decide)

theorem Fits.below {top : Bytes} {below : List Bytes} (fits : Fits (top :: below)) :
    Fits below where
  count := Nat.le_of_succ_le fits.count
  lengths := fun item member => fits.lengths item (List.mem_cons_of_mem top member)

namespace Number

theorem length_trim_le (bytes : Bytes) : (trim bytes).length ≤ bytes.length := by
  induction bytes with
  | nil => exact Nat.le_refl _
  | cons byte rest ih =>
      unfold trim
      split
      · split
        · exact Nat.zero_le _
        · simp
      · simpa using ih

theorem length_write_le (number : Int) : (write number).length ≤ 8 := by
  have short := length_trim_le (Bytes.littleEndian 8 (number % 0x10000000000000000).toNat)
  rwa [Bytes.length_littleEndian] at short

@[simp]
theorem length_write_le_maxSize (number : Int) : (write number).length ≤ maxSize :=
  Nat.le_trans (length_write_le number) (by decide)

@[simp]
theorem length_ofTruth_le_maxSize (value : Bool) : (ofTruth value).length ≤ maxSize := by
  cases value with
  | false => decide
  | true => decide

end Number

theorem Digest.length_le_maxSize (digest : Digest) : digest.bytes.length ≤ maxSize := by
  rw [digest.length_eq]
  decide

/-! ### Effects -/

namespace StackEffect

/-- An effect that pushes no item which is too long for memory. -/
def Fitting (effect : StackEffect) : Prop :=
  ∀ items, effect.outcome = .ok items → ∀ item ∈ items, item.length ≤ maxSize

variable {stack items : List Bytes}

@[simp]
theorem fitting_push : (push stack items).Fitting ↔ ∀ item ∈ items, item.length ≤ maxSize := by
  simp [Fitting, push]

@[simp]
theorem fitting_leave : (leave stack).Fitting := by
  simp [Fitting, leave]

@[simp]
theorem fitting_fail {fault : Fault} : (fail fault stack).Fitting := by
  simp [Fitting, fail]

@[simp]
theorem fitting_missing : (missing stack).Fitting := by
  simp [Fitting, missing]

@[simp]
theorem fitting_after {toll : Nat} {effect : StackEffect} :
    (after toll effect).Fitting ↔ effect.Fitting :=
  Iff.rfl

@[simp]
theorem fitting_demand {condition : Bool} : (demand condition stack).Fitting := by
  unfold demand
  split
  · exact fitting_leave
  · exact fitting_fail

@[simp]
theorem fitting_pushResult {result : Except Fault Bytes} :
    (pushResult stack result).Fitting ↔
      ∀ item, result = .ok item → item.length ≤ maxSize := by
  cases result with
  | ok item => simp [pushResult]
  | error fault => simp [pushResult]

theorem fitting_pushResult_map {Value : Type} {result : Except Fault Value}
    {write : Value → Bytes} (short : ∀ value, (write value).length ≤ maxSize) :
    (pushResult stack (result.map write)).Fitting := by
  cases result with
  | ok value => simpa [Except.map] using short value
  | error fault => simp [Except.map]

end StackEffect

open StackEffect

variable {stack : List Bytes}

namespace Shuffle

variable {operand : Bytes} {below : List Bytes}

theorem fitting_chosen {use : Nat → Bytes → StackEffect}
    (fitting : ∀ index item, item ∈ below → (use index item).Fitting) :
    (chosen operand below use).Fitting := by
  unfold chosen
  split
  · exact fitting_fail
  · split
    · exact fitting_fail
    · split
      · exact fitting_fail
      · rename_i found
        exact fitting _ _ (List.mem_of_getElem? found)

/-- Copies are no longer than what they are copies of. -/
theorem fitting_effect (shuffle : Shuffle) (fits : Fits stack) :
    (shuffle.effect stack).Fitting := by
  have short := fits.lengths
  fun_cases effect shuffle stack
  case case14 operand below =>
    refine fitting_chosen fun index item member => ?_
    simpa using fits.below.lengths item member
  case case15 operand below => exact fitting_chosen fun _ _ _ => fitting_leave
  all_goals simp_all

end Shuffle

theorem Bitwise.fitting_effect (bitwise : Bitwise) (fits : Fits stack) :
    (bitwise.effect stack).Fitting := by
  have short := fits.lengths
  fun_cases effect bitwise stack
  all_goals simp_all [zipPadded, padded]
  all_goals omega

namespace Numeric

theorem fitting_withOne {use : Int → List Bytes → StackEffect}
    (fitting : ∀ number below, (use number below).Fitting) : (withOne stack use).Fitting := by
  fun_cases withOne stack use
  · exact fitting _ _
  · exact fitting_fail
  · exact fitting_missing

theorem fitting_withTwo {use : Int → Int → List Bytes → StackEffect}
    (fitting : ∀ left right below, (use left right below).Fitting) :
    (withTwo stack use).Fitting := by
  fun_cases withTwo stack use
  · exact fitting _ _ _
  · exact fitting_fail
  · exact fitting_missing

theorem fitting_withThree {use : Int → Int → Int → List Bytes → StackEffect}
    (fitting : ∀ first second third below, (use first second third below).Fitting) :
    (withThree stack use).Fitting := by
  fun_cases withThree stack use
  · exact fitting _ _ _ _
  · exact fitting_fail
  · exact fitting_missing

theorem fitting_effect (numeric : Numeric) (stack : List Bytes) :
    (numeric.effect stack).Fitting := by
  cases numeric with
  | unary function =>
      exact fitting_withOne fun _ _ => fitting_pushResult_map Number.length_write_le_maxSize
  | isZero => exact fitting_withOne fun _ _ => by simp
  | isNonzero => exact fitting_withOne fun _ _ => by simp
  | binary function =>
      refine fitting_withTwo fun left right below => ?_
      split
      · simp
      · exact fitting_fail
  | relation test => exact fitting_withTwo fun _ _ _ => by simp
  | equalVerify => exact fitting_withTwo fun _ _ _ => fitting_demand
  | within => exact fitting_withThree fun _ _ _ _ => by simp

end Numeric

namespace Attest

theorem fitting_judge (good : Bool) (signatures below : List Bytes) :
    (judge good signatures below).Fitting := by
  unfold judge
  split
  · exact fitting_fail
  · simp

theorem fitting_multisignature (verify : SignatureVerifier) (stack : List Bytes) :
    (multisignature verify stack).Fitting := by
  fun_cases multisignature verify stack
  all_goals simp [fitting_judge]

theorem fitting_effect (verify : SignatureVerifier) (attest : Attest) (stack : List Bytes) :
    (attest.effect verify stack).Fitting := by
  fun_cases effect verify attest stack
  case case1 item below => simpa using (Digest.hash item).length_le_maxSize
  case case2 item below =>
    have front : (EntryLedger.hash160 item).length ≤ maxSize :=
      Nat.le_trans (List.length_take_le' 20 _) (Digest.hash item).length_le_maxSize
    simpa using front
  all_goals simp [fitting_judge, fitting_multisignature]

end Attest

namespace Observe

theorem fitting_quantity (number : UInt64) (stack : List Bytes) :
    (pushResult stack (quantity number)).Fitting := by
  unfold quantity
  split
  · simp
  · simp

theorem fitting_askOutput (checker : Option OutputChecker) (stack : List Bytes) :
    (askOutput checker stack).Fitting := by
  unfold askOutput
  split
  · exact fitting_fail
  · split
    · split
      · exact fitting_fail
      · exact fitting_pushResult_map Number.length_ofTruth_le_maxSize
    · exact fitting_missing

theorem fitting_effect {context : Context} (program : context.program.length ≤ maxSize)
    (observe : Observe) (stack : List Bytes) : (observe.effect context stack).Fitting := by
  have part {Part : Type} (found : Option Part) (bytes : Part → Except Fault Bytes)
      (short : ∀ value, (pushResult stack (bytes value)).Fitting) :
      (pushResult stack (present found bytes)).Fitting := by
    cases found with
    | none => exact fitting_fail
    | some value => exact short value
  cases observe with
  | checkOutput => exact fitting_askOutput _ stack
  | signatureHash => simpa [effect] using context.signatureHash.length_le_maxSize
  | entryId => simpa [effect] using context.entryId.length_le_maxSize
  | program => simpa [effect] using program
  | asset | outputId => exact part _ _ fun value => by simpa using value.length_le_maxSize
  | amount | position => exact part _ _ fun value => fitting_quantity value stack
  | blockHeight | blockTime => exact fitting_quantity _ stack

end Observe

end EntryLedger
