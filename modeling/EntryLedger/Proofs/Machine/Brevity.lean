import EntryLedger.Proofs.Machine.Concatenation

/-!
# The length of pushes

What is written to push an item pushes it, and is compared with every instruction that pushes
the same item; what is written to push a number pushes an item that denotes it, and is compared
with every instruction that pushes such an item.  Minus one alone has an item of eight bytes and
an instruction of one.
-/

namespace EntryLedger.Code

open Instruction

variable {code item : Bytes} {instruction : Instruction} {number : Int}

theorem length_push_le_of_decode (decoded : decode code 0 = .ok instruction)
    (pushes : instruction.opcode.isPush = true) (other : instruction.opcode ≠ 0x4f) :
    (push instruction.data).length ≤ instruction.length := by
  obtain ⟨front, rest, encodes, -⟩ := exists_encodes_of_ofBytes decoded
  rw [← encodes.length_eq]
  exact length_push_le_of_encodes encodes pushes other

theorem length_data_le_of_decode (decoded : decode code 0 = .ok instruction) :
    instruction.data.length ≤ maxLength := by
  obtain ⟨front, rest, encodes, -⟩ := exists_encodes_of_ofBytes decoded
  exact encodes.length_data_le

theorem eq_minusOne_of_decode (decoded : decode code 0 = .ok instruction)
    (negative : instruction.opcode = 0x4f) :
    instruction = ⟨0x4f, 1, Number.write (-1)⟩ := by
  obtain ⟨front, rest, encodes, -⟩ := exists_encodes_of_ofBytes decoded
  exact encodes.eq_minusOne negative

/-- The code of an item pushes the item, wherever the code stands, and is no longer than any
instruction that pushes the item, other than the single byte for minus one.  The item of that
byte is spelled out in nine bytes. -/
theorem push_shortest_iff (decoded : decode code 0 = .ok instruction)
    (pushes : Pushes item instruction) :
    Spelled (Pushes item) (push item) ∧
      ((push item).length ≤ instruction.length ↔ instruction.opcode ≠ 0x4f) ∧
      (instruction.opcode = 0x4f →
        item = List.replicate 8 0xff ∧ (push item).length = 9 ∧ instruction.length = 1) := by
  have negative (isNegative : instruction.opcode = 0x4f) :
      item = List.replicate 8 0xff ∧ (push item).length = 9 ∧ instruction.length = 1 := by
    rw [← pushes.data, eq_minusOne_of_decode decoded isNegative]
    decide
  refine ⟨?spelled, ⟨fun short isNegative => ?longer, fun other => ?shortest⟩, negative⟩
  case spelled =>
    apply spelled_push
    rw [← pushes.data]
    exact length_data_le_of_decode decoded
  case longer =>
    obtain ⟨-, spelled, single⟩ := negative isNegative
    omega
  case shortest =>
    rw [← pushes.data]
    exact length_push_le_of_decode decoded pushes.isPush other

/-- An item behind an explicit length is pushed by one byte. -/
theorem push_shortest_iff_of_five :
    Spelled (Pushes [5]) (push [5]) ∧ ((push [5]).length ≤ 2 ↔ (0x01 : Opcode) ≠ 0x4f) := by
  have decoded : decode [0x01, 5] 0 = .ok ⟨0x01, 2, [5]⟩ := rfl
  obtain ⟨spelled, shortest, -⟩ := push_shortest_iff decoded ⟨rfl, rfl⟩
  exact ⟨spelled, shortest⟩

/-- A single byte pushes the item of minus one, and the code of that item takes nine. -/
theorem minusOne_shorter_than_push :
    decode [0x4f] 0 = .ok ⟨0x4f, 1, List.replicate 8 0xff⟩ ∧
      Pushes (List.replicate 8 0xff) ⟨0x4f, 1, List.replicate 8 0xff⟩ ∧
      ¬ (push (List.replicate 8 0xff)).length ≤ 1 :=
  ⟨rfl, ⟨rfl, rfl⟩, by decide⟩

/-! ### Numbers -/

/-- Zero bytes at the end of a short item make its code longer. -/
theorem length_push_trim_le (short : item.length ≤ 8) :
    (push (Number.trim item)).length ≤ (push item).length := by
  rcases Number.eq_trim_or_longer item with same | longer
  · exact Nat.le_of_eq (congrArg (List.length ∘ push) same.symm)
  · -- The byte that is trimmed off makes up for the one that tells the length.
    calc (push (Number.trim item)).length
        ≤ overhead (Number.trim item).length + (Number.trim item).length :=
          length_push_le_overhead _
      _ = 1 + (Number.trim item).length := by
          rw [overhead, if_pos (by omega)]
      _ ≤ item.length := by omega
      _ ≤ (push item).length := length_le_length_push item

theorem length_pushNumber_le_of_decode (decoded : decode code 0 = .ok instruction)
    (pushes : PushesNumber number instruction) :
    (pushNumber number).length ≤ instruction.length := by
  by_cases negative : number = -1
  · subst negative
    exact length_pos decoded
  · have denotes := pushes.read
    have other : instruction.opcode ≠ 0x4f := by
      intro isNegative
      rw [eq_minusOne_of_decode decoded isNegative, Number.read_write (by decide)] at denotes
      exact negative (Option.some_inj.mp denotes).symm
    obtain ⟨short, rfl⟩ := Number.read_eq_some_iff.mp denotes
    calc (pushNumber (Number.word instruction.data)).length
        = (push (Number.trim instruction.data)).length := by
          rw [pushNumber_eq_push negative, Number.write_word short]
      _ ≤ (push instruction.data).length := length_push_trim_le short
      _ ≤ instruction.length := length_push_le_of_decode decoded pushes.isPush other

/-- The code of a number in the word pushes an item that denotes the number, wherever the code
stands, and is no longer than any instruction that pushes an item which denotes the number. -/
theorem pushNumber_shortest (inWord : Number.fits number = true) :
    Spelled (PushesNumber number) (pushNumber number) ∧
      ∀ code instruction, decode code 0 = .ok instruction → PushesNumber number instruction →
        (pushNumber number).length ≤ instruction.length :=
  ⟨spelled_pushNumber inWord, fun _ _ => length_pushNumber_le_of_decode⟩

/-- The item has two zero bytes that do not count, and its length is written in two bytes. -/
theorem pushNumber_shortest_of_padded :
    Spelled (PushesNumber 0xff) (pushNumber 0xff) ∧ (pushNumber 0xff).length ≤ 6 := by
  have decoded : decode [0x4d, 3, 0, 0xff, 0, 0] 0 = .ok ⟨0x4d, 6, [0xff, 0, 0]⟩ := by
    decide +kernel
  obtain ⟨spelled, shortest⟩ := pushNumber_shortest (show Number.fits 0xff = true by decide)
  exact ⟨spelled, shortest _ _ decoded ⟨by decide, by decide⟩⟩

end EntryLedger.Code
