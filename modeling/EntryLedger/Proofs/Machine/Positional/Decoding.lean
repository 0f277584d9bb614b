import EntryLedger.Proofs.Machine.Positional.Walk

/-!
# Decoding by position

A program is in memory, so that no position in it leaves its word, and an instruction is
never longer than its length can tell.
-/

namespace EntryLedger.Positional

open Access

variable {program : Bytes} {position : Nat}

theorem immediate_eq {first : Nat} (short : program.length ≤ maxSize)
    (within : first ≤ program.length) (length : Nat) :
    immediate program first length =
      attempt refuse (Instruction.immediate (program.drop first) length) := by
  have word : maxSize ≤ maxWord := by decide
  rw [immediate, checkedSum_bind fun overflow => if_neg (by omega), Instruction.immediate,
    List.length_take, List.length_drop]
  by_cases enough : first + length ≤ program.length
  · rw [if_pos enough, if_pos (by omega)]
    rfl
  · rw [if_neg enough, if_neg (by omega)]
    rfl

theorem carrying_eq_ok {opcode : Opcode} {front : Nat} {data : Bytes} (near : front ≤ 5)
    (short : data.length ≤ Instruction.maxLength) :
    carrying opcode front data =
      .ok { opcode := opcode, length := front + data.length, data := data } := by
  have word : 5 + Instruction.maxLength ≤ maxWord := by decide
  have double : ¬ 0xffffffff < front + data.length := by
    unfold Instruction.maxLength at short
    omega
  rw [carrying, sum_eq_ok (by omega), Checks.ok_bind, if_neg double]
  rfl

section Within

variable (short : program.length ≤ maxSize) (within : position < program.length)
include short within

theorem fixedData_eq (opcode : Opcode) {length : Nat} (few : length ≤ 75) :
    fixedData program position opcode length =
      attempt refuse (Instruction.fixedData opcode (program.drop (position + 1)) length) := by
  have word : maxSize < maxWord := by decide
  rw [fixedData, sum_eq_ok (by omega), Checks.ok_bind, immediate_eq short within,
    Instruction.fixedData]
  cases found : Instruction.immediate (program.drop (position + 1)) length with
  | error fault => rfl
  | ok data =>
      obtain ⟨measured, -⟩ := Instruction.immediate_eq_ok.mp found
      have limited : data.length ≤ Instruction.maxLength := by
        unfold Instruction.maxLength
        omega
      rw [attempt, Checks.ok_bind, carrying_eq_ok (by decide) limited, measured]
      rfl

theorem sizedPush_eq (opcode : Opcode) {width : Nat} (narrow : width ≤ 4) :
    sizedPush program position opcode width =
      attempt refuse (Instruction.sizedPush opcode (program.drop (position + 1)) width) := by
  have word : maxSize + 5 ≤ maxWord := by decide
  rw [sizedPush, sum_eq_ok (by omega), Checks.ok_bind, immediate_eq short within,
    Instruction.sizedPush]
  cases found : Instruction.immediate (program.drop (position + 1)) width with
  | error fault => rfl
  | ok written =>
      obtain ⟨measured, behind, split⟩ := Instruction.immediate_eq_ok.mp found
      have inside := congrArg List.length split
      rw [List.length_drop, List.length_append] at inside
      have room : written.length ≤ (List.replicate 4 (0 : UInt8)).length := by
        simp only [List.length_replicate]
        omega
      rw [attempt, Checks.ok_bind, Checks.ok_bind, ← measured, overwrite_eq_ok room,
        Checks.ok_bind, List.drop_replicate, ofLittleEndian_append_zeros]
      simp only
      by_cases long : Instruction.maxLength < Bytes.ofLittleEndian written
      · rw [if_pos long, if_pos long]
        rfl
      · rw [if_neg long, if_neg long, sum_eq_ok (by omega), Checks.ok_bind,
          immediate_eq short (by omega), List.drop_drop]
        cases carried : Instruction.immediate (program.drop (position + 1 + written.length))
            (Bytes.ofLittleEndian written) with
        | error fault => rfl
        | ok data =>
            obtain ⟨counted, -⟩ := Instruction.immediate_eq_ok.mp carried
            rw [attempt, Checks.ok_bind, sum_eq_ok (by omega), Checks.ok_bind,
              carrying_eq_ok (by omega) (by omega), counted]
            rfl

end Within

theorem smallNumber_eq {opcode : Opcode} (small : 0x51 ≤ opcode.toNat ∧ opcode.toNat ≤ 0x60) :
    smallNumber opcode = .ok { opcode := opcode, length := 1, data := [opcode - 0x50] } := by
  have above : 0x51 ≤ opcode := UInt8.le_iff_toNat_le.mpr small.1
  have below : (opcode - 0x51).toNat = opcode.toNat - 0x51 := UInt8.toNat_sub_of_le _ _ above
  have sum : (opcode - 0x51).toNat + (1 : UInt8).toNat ≤ 0xff := by
    rw [below]
    simp
    omega
  have number : opcode - 0x51 + 1 = opcode - 0x50 := by grind
  rw [smallNumber, byteDifference, if_pos above, Checks.ok_bind, byteSum, if_pos sum,
    Checks.ok_bind, number]
  rfl

/-- An instruction is read as it is from the rest of the program. -/
theorem decode_eq (short : program.length ≤ maxSize) (position : Nat) :
    decode program position = attempt refuse (Instruction.decode program position) := by
  unfold decode Instruction.decode
  by_cases within : position < program.length
  · rw [List.getElem?_eq_getElem within, List.drop_eq_getElem_cons within,
      Instruction.ofBytes]
    simp only
    split
    · rename_i range
      exact fixedData_eq short within _ range.2
    · split
      · exact sizedPush_eq short within _ (by decide)
      · split
        · exact sizedPush_eq short within _ (by decide)
        · split
          · exact sizedPush_eq short within _ (by decide)
          · split
            · exact fixedData_eq short within _ (by decide)
            · split
              · rfl
              · split
                · rename_i small
                  exact smallNumber_eq small
                · rfl
  · have outside := Nat.le_of_not_lt within
    rw [List.getElem?_eq_none outside, List.drop_eq_nil_of_le outside]
    rfl

/-- What an instruction carries fits memory. -/
theorem length_data_le {bytes : Bytes} {instruction : Instruction}
    (decoded : Instruction.ofBytes bytes = .ok instruction) :
    instruction.data.length ≤ maxSize := by
  obtain ⟨_, _, encodes, -⟩ := Instruction.exists_encodes_of_ofBytes decoded
  exact Nat.le_trans encodes.length_data_le (by decide)

theorem length_data_le_of_fetch {machine : Machine} {fetched : Instruction × Operation}
    (found : machine.fetch = .ok fetched) : fetched.1.data.length ≤ maxSize :=
  length_data_le (Machine.fetch_eq_ok.mp found).1

/-- What is fetched by position is what is fetched. -/
theorem fetch_eq {machine : Machine} (short : machine.tape.program.length ≤ maxSize) :
    fetch machine = attempt refuse machine.fetch := by
  unfold fetch Machine.fetch
  rw [decode_eq short, Tape.decode_eq]
  cases Instruction.decode machine.tape.program machine.position with
  | error fault => rfl
  | ok instruction =>
      simp only [attempt, Checks.ok_bind]
      cases instruction.opcode.operation? with
      | none => rfl
      | some operation =>
          simp only
          split
          · rfl
          · rfl

end EntryLedger.Positional
