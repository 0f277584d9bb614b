import EntryLedger.Proofs.Machine.Encoding
import EntryLedger.Proofs.Machine.Positional.Fitting

/-!
# The shortest code of instructions

Items and numbers are pushed by their shortest code, which spells an instruction that pushes
them.  An instruction has the code that is written for what it does: the same one, except for
pushes that are longer than they need to be.
-/

namespace EntryLedger

namespace Opcode

variable {opcode : Opcode}

theorem operation_of_isPush (pushes : opcode.isPush = true) :
    opcode.operation? = some .push := by
  have all : ∀ number < 256, isPush (UInt8.ofNat number) = true →
      operation? (UInt8.ofNat number) = some .push := by
    decide +kernel
  have same : UInt8.ofNat opcode.toNat = opcode := UInt8.ofNat_toNat
  exact same ▸ all opcode.toNat opcode.toNat_lt (same.symm ▸ pushes)

theorem isDefined_of_isPush (pushes : opcode.isPush = true) : opcode.isDefined = true := by
  rw [isDefined, operation_of_isPush pushes, Option.isSome_some]

theorem since_of_isPush (pushes : opcode.isPush = true) : opcode.since = 1 := by
  rw [since, operation_of_isPush pushes]

end Opcode

namespace Instruction

/-- An instruction that pushes an item. -/
structure Pushes (item : Bytes) (instruction : Instruction) : Prop where
  isPush : instruction.opcode.isPush = true
  data : instruction.data = item

end Instruction

namespace Code

open Instruction

variable {item : Bytes} {opcode : Opcode}

/-- The opcodes of small numbers are their shortest code. -/
theorem push_small (range : 0x51 ≤ opcode.toNat ∧ opcode.toNat ≤ 0x60) :
    push [opcode - 0x50] = [opcode] := by
  have number : (opcode - 0x50).toNat = opcode.toNat - 0x50 :=
    UInt8.toNat_sub_of_le _ _ (UInt8.le_iff_toNat_le.mpr (by simp; omega))
  have positive : 1 ≤ opcode - 0x50 := UInt8.le_iff_toNat_le.mpr (by simp [number]; omega)
  have few : opcode - 0x50 ≤ 16 := UInt8.le_iff_toNat_le.mpr (by simp [number]; omega)
  have opcode_eq : 0x50 + (opcode - 0x50) = opcode := by grind
  rw [push, if_pos ⟨rfl, positive, few⟩, opcode_eq]

/-- An item behind its length is spelled out in full. -/
theorem exists_encodes_sized {width : Nat} (short : item.length ≤ maxLength)
    (wide : (opcode, width) ∈ sizes)
    (fits : item.length < Bytes.capacity width) :
    ∃ instruction, Encodes instruction
        (opcode :: (Bytes.littleEndian width item.length ++ item)) ∧
      Pushes item instruction ∧ instruction.opcode ≠ 0x4f := by
  have range := toNat_of_mem_sizes wide
  have selected : opcode.isPush = true ∧ opcode ≠ 0x4f :=
    Opcode.isPush_and_ne (by omega) (by omega)
  exact ⟨_, .sized wide fits short, ⟨selected.1, rfl⟩, selected.2⟩

/-- The shortest code of an item spells an instruction that pushes it. -/
theorem exists_encodes_push (short : item.length ≤ maxLength) :
    ∃ instruction, Encodes instruction (push item) ∧ Pushes item instruction ∧
      instruction.opcode ≠ 0x4f := by
  cases item with
  | nil => exact ⟨⟨0x00, 1, []⟩, .bare (.inl rfl), ⟨rfl, rfl⟩, by decide⟩
  | cons first rest =>
      rw [push]
      split
      · rename_i single
        obtain ⟨rfl, positive, few⟩ := single
        have range : 1 ≤ first.toNat ∧ first.toNat ≤ 16 :=
          ⟨UInt8.le_iff_toNat_le.mp positive, UInt8.le_iff_toNat_le.mp few⟩
        have number : (0x50 + first).toNat = 0x50 + first.toNat := by
          rw [UInt8.toNat_add]
          exact Nat.mod_eq_of_lt (by simp; omega)
        have same : 0x50 + first - 0x50 = first := by grind
        have encodes : Encodes ⟨0x50 + first, 1, [0x50 + first - 0x50]⟩ [0x50 + first] :=
          .small (by omega)
        rw [same] at encodes
        have selected := Opcode.isPush_and_ne (by omega : (0x50 + first).toNat ≤ 0x60)
          (by omega)
        exact ⟨_, encodes, ⟨selected.1, rfl⟩, selected.2⟩
      · split
        · rename_i few
          have positive : 1 ≤ (first :: rest).length := by simp
          have number : (UInt8.ofNat (first :: rest).length).toNat = (first :: rest).length :=
            UInt8.toNat_ofNat_of_lt' (Nat.lt_of_le_of_lt few (by decide))
          have encodes := Encodes.direct number.symm (by omega)
          have selected := Opcode.isPush_and_ne
            (by omega : (UInt8.ofNat (first :: rest).length).toNat ≤ 0x60) (by omega)
          exact ⟨_, encodes, ⟨selected.1, rfl⟩, selected.2⟩
        · split
          · rename_i fits
            exact exists_encodes_sized short (by simp [sizes]) (Nat.lt_succ_of_le fits)
          · split
            · rename_i fits
              exact exists_encodes_sized short (by simp [sizes]) (Nat.lt_succ_of_le fits)
            · exact exists_encodes_sized short (by simp [sizes])
                (Nat.lt_of_le_of_lt short (by decide))

/-- The bytes that an item of some length is preceded by. -/
def overhead (length : Nat) : Nat :=
  if length ≤ 75 then 1 else if length ≤ 255 then 2 else if length ≤ 65535 then 3 else 5

theorem length_push_le_overhead (item : Bytes) :
    (push item).length ≤ overhead item.length + item.length := by
  cases item with
  | nil => decide
  | cons first rest =>
      rw [push]
      unfold overhead
      repeat' split
      all_goals simp only [List.length_cons, List.length_append, List.length_nil,
        Bytes.length_littleEndian] at *
      all_goals omega

theorem length_le_length_push (item : Bytes) : item.length ≤ (push item).length := by
  cases item with
  | nil => decide
  | cons first rest =>
      rw [push]
      split
      · rename_i single
        rw [single.1]
        exact Nat.le_refl 1
      · repeat' split
        all_goals simp only [List.length_cons, List.length_append]
        all_goals omega

/-- No other code of a push is shorter, other than that of minus one. -/
theorem length_push_le_of_encodes {instruction : Instruction} {code : Bytes}
    (encodes : Encodes instruction code) (pushes : instruction.opcode.isPush = true)
    (positive : instruction.opcode ≠ 0x4f) : (push instruction.data).length ≤ code.length := by
  rw [Opcode.isPush_iff] at pushes
  have bound := length_push_le_overhead instruction.data
  rw [encodes.length_eq]
  cases encodes with
  | direct sized range =>
      unfold overhead at bound
      simp only at *
      split at bound
      · omega
      · omega
  | sized wide fits short =>
      unfold overhead at bound
      simp only at *
      rcases mem_sizes.mp wide with ⟨rfl, rfl⟩ | ⟨rfl, rfl⟩ | ⟨rfl, rfl⟩
      all_goals
        simp only [Bytes.capacity] at fits
        repeat' split at bound
        all_goals omega
  | jump jumps => simp only at pushes; omega
  | minusOne => exact absurd rfl positive
  | small range =>
      simp only
      rw [push_small range]
      exact Nat.le_refl _
  | bare => exact Nat.le_refl _

end Code

namespace Number

theorem write_small {number : Nat} (positive : 1 ≤ number) (few : number ≤ 16) :
    write number = [UInt8.ofNat number] := by
  have all : ∀ number : Nat, number ≤ 16 → 1 ≤ number →
      write number = [UInt8.ofNat number] := by
    decide
  exact all number few positive

end Number

namespace Code

open Instruction

variable {number : Int}

/-- Other than minus one, a number is pushed like the item that denotes it. -/
theorem pushNumber_eq_push (other : number ≠ -1) :
    pushNumber number = push (Number.write number) := by
  unfold pushNumber
  split
  · rename_i zero
    rw [zero]
    rfl
  · split
    · rename_i small
      obtain ⟨magnitude, rfl⟩ := Int.eq_ofNat_of_zero_le (by omega : 0 ≤ number)
      have all : ∀ number ≤ 16, 1 ≤ number →
          [UInt8.ofNat (0x50 + number)] = push [UInt8.ofNat number] := by
        decide
      rw [Number.write_small (by omega) (by omega)]
      exact all magnitude (by omega) (by omega)
    · rfl

end Code

namespace Instruction

/-- The code that is written for what an instruction does: the shortest code of the item that
it pushes, unless that is minus one in a single byte. -/
def shortest (instruction : Instruction) : Bytes :=
  if instruction.opcode = 0x4f then [0x4f]
  else if instruction.opcode.isPush = true then Code.push instruction.data
  else instruction.opcode :: instruction.data

/-- A defined instruction that its shortest code spells. -/
structure IsShortest (instruction : Instruction) : Prop where
  encodes : Encodes instruction instruction.shortest
  isDefined : instruction.opcode.isDefined = true

/-- Instructions that push the same item, or do the same with the same target. -/
structure Alike (first second : Instruction) : Prop where
  data : first.data = second.data
  opcode : first.opcode = second.opcode ∨
    first.opcode.isPush = true ∧ second.opcode.isPush = true

variable {instruction : Instruction} {code item : Bytes}

theorem Alike.refl (instruction : Instruction) : Alike instruction instruction where
  data := rfl
  opcode := .inl rfl

theorem shortest_of_not_isPush (other : ¬ instruction.opcode.isPush = true) :
    instruction.shortest = instruction.opcode :: instruction.data := by
  have different : instruction.opcode ≠ 0x4f := fun negative => other (by rw [negative]; rfl)
  rw [shortest, if_neg different, if_neg other]

theorem Pushes.shortest_eq (pushes : Pushes item instruction)
    (other : instruction.opcode ≠ 0x4f) : instruction.shortest = Code.push item := by
  rw [shortest, if_neg other, if_pos pushes.isPush, pushes.data]

/-- There is one code for what does not push. -/
theorem Encodes.shortest_of_not_isPush (encodes : Encodes instruction code)
    (other : ¬ instruction.opcode.isPush = true) : instruction.shortest = code := by
  rw [Instruction.shortest_of_not_isPush other, encodes.eq_of_not_isPush other]

theorem Encodes.isShortest_of_not_isPush (encodes : Encodes instruction code)
    (other : ¬ instruction.opcode.isPush = true)
    (isDefined : instruction.opcode.isDefined = true) : instruction.IsShortest where
  encodes := (encodes.shortest_of_not_isPush other).symm ▸ encodes
  isDefined := isDefined

theorem isShortest_minusOne : IsShortest ⟨0x4f, 1, Number.write (-1)⟩ where
  encodes := .minusOne
  isDefined := rfl

/-- The shortest code of an item spells an instruction that pushes it. -/
theorem exists_isShortest_push (short : item.length ≤ maxLength) :
    ∃ instruction : Instruction, instruction.IsShortest ∧
      instruction.shortest = Code.push item ∧ Pushes item instruction := by
  obtain ⟨instruction, encodes, pushes, other⟩ := Code.exists_encodes_push short
  have same := pushes.shortest_eq other
  exact ⟨instruction, ⟨same.symm ▸ encodes, Opcode.isDefined_of_isPush pushes.isPush⟩, same,
    pushes⟩

/-- The shortest code of a number spells an instruction that pushes its item. -/
theorem exists_isShortest_pushNumber (number : Int) :
    ∃ instruction : Instruction, instruction.IsShortest ∧
      instruction.shortest = Code.pushNumber number ∧
      Pushes (Number.write number) instruction := by
  by_cases negative : number = -1
  · subst negative
    exact ⟨_, isShortest_minusOne, rfl, ⟨rfl, rfl⟩⟩
  · have short : (Number.write number).length ≤ maxLength :=
      Nat.le_trans (Number.length_write_le number) (by decide)
    rw [Code.pushNumber_eq_push negative]
    exact exists_isShortest_push short

theorem encodes_jump {opcode : Opcode} (jumps : opcode.toNat = 0x63 ∨ opcode.toNat = 0x64)
    (target : UInt32) :
    Encodes ⟨opcode, 5, Bytes.littleEndian 4 target.toNat⟩ (Code.jump opcode target) :=
  .jump jumps (Bytes.length_littleEndian 4 target.toNat)

/-- What an instruction does, its shortest code does. -/
theorem Encodes.exists_isShortest (encodes : Encodes instruction code)
    (isDefined : instruction.opcode.isDefined = true) :
    ∃ other : Instruction, other.IsShortest ∧ other.shortest = instruction.shortest ∧
      Alike instruction other := by
  by_cases pushes : instruction.opcode.isPush = true
  · by_cases negative : instruction.opcode = 0x4f
    · rw [encodes.eq_minusOne negative]
      exact ⟨_, isShortest_minusOne, rfl, .refl _⟩
    · obtain ⟨other, isShortest, same, pushed⟩ :=
        exists_isShortest_push encodes.length_data_le
      refine ⟨other, isShortest, ?_, ⟨pushed.data.symm, .inr ⟨pushes, pushed.isPush⟩⟩⟩
      rw [same, shortest, if_neg negative, if_pos pushes]
  · exact ⟨instruction, encodes.isShortest_of_not_isPush pushes isDefined, rfl, .refl _⟩

theorem Encodes.length_shortest_le (encodes : Encodes instruction code) :
    instruction.shortest.length ≤ code.length := by
  by_cases pushes : instruction.opcode.isPush = true
  · by_cases negative : instruction.opcode = 0x4f
    · have same : instruction.shortest = code := by
        rw [shortest, if_pos negative, encodes.eq_of_minusOne negative]
      exact Nat.le_of_eq (congrArg List.length same)
    · rw [shortest, if_neg negative, if_pos pushes]
      exact Code.length_push_le_of_encodes encodes pushes negative
  · exact Nat.le_of_eq (congrArg List.length (encodes.shortest_of_not_isPush pushes))

/-- An instruction has its shortest code exactly if it pushes minus one in a single byte, pushes
nothing, or pushes its item by the shortest code. -/
theorem Encodes.eq_shortest_iff (encodes : Encodes instruction code) :
    code = instruction.shortest ↔
      (instruction.opcode.isPush = true →
        instruction.opcode = 0x4f ∨ code = Code.push instruction.data) := by
  by_cases pushes : instruction.opcode.isPush = true
  · by_cases negative : instruction.opcode = 0x4f
    · simp [shortest, negative, encodes.eq_of_minusOne negative]
    · simp [shortest, negative, pushes]
  · simp [pushes, encodes.shortest_of_not_isPush pushes]

/-! ### Programs -/

variable {instructions : List Instruction}

theorem spelled_of_isShortest (all : ∀ instruction ∈ instructions, instruction.IsShortest) :
    List.Forall₂ Encodes instructions (instructions.map shortest) := by
  rw [List.forall₂_map_right_iff, List.forall₂_same]
  exact fun instruction member => (all instruction member).encodes

theorem decodeFrom_shortest (all : ∀ instruction ∈ instructions, instruction.IsShortest) :
    decodeFrom (instructions.flatMap shortest) = .ok instructions := by
  rw [List.flatMap_def]
  exact decodeFrom_flatten (spelled_of_isShortest all)

end Instruction

end EntryLedger
