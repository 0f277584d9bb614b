import Mathlib.Algebra.BigOperators.Group.List.Basic
import Mathlib.Algebra.GroupWithZero.Nat
import Mathlib.Data.List.Forall2
import EntryLedger.Machine.Instruction
import EntryLedger.Proofs.Checks

/-!
# The code of instructions

Which bytes spell an instruction is a relation.  Decoding finds the one instruction that
some front of a byte string spells, so that a program decodes exactly when it can be cut
into pieces that spell instructions, and each piece stands where the lengths of those
before it put it.
-/

namespace EntryLedger

namespace Opcode

variable {opcode : Opcode}

theorem isPush_iff : opcode.isPush = true ↔ opcode.toNat ≤ 0x60 ∧ opcode.toNat ≠ 0x50 := by
  rw [isPush, decide_eq_true_eq, UInt8.le_iff_toNat_le, ne_eq, ← UInt8.toNat_inj]
  rfl

/-- The opcodes of pushes other than that of minus one. -/
theorem isPush_and_ne (below : opcode.toNat ≤ 0x60)
    (other : opcode.toNat ≠ 0x4f ∧ opcode.toNat ≠ 0x50) :
    opcode.isPush = true ∧ opcode ≠ 0x4f := by
  refine ⟨isPush_iff.mpr ⟨below, other.2⟩, ?_⟩
  rintro rfl
  exact other.1 rfl

theorem eq_of_jumps (jumps : opcode.toNat = 0x63 ∨ opcode.toNat = 0x64) :
    opcode = 0x63 ∨ opcode = 0x64 :=
  jumps.imp UInt8.toNat_inj.mp UInt8.toNat_inj.mp

/-- An opcode that is an instruction by itself and pushes nothing. -/
structure StandsAlone (opcode : Opcode) : Prop where
  isDefined : opcode.isDefined = true
  pushes : ¬ opcode.isPush = true
  jumps : ¬ (opcode.toNat = 0x63 ∨ opcode.toNat = 0x64)

instance (opcode : Opcode) : Decidable opcode.StandsAlone :=
  decidable_of_iff (opcode.isDefined = true ∧ ¬ opcode.isPush = true ∧
      ¬ (opcode.toNat = 0x63 ∨ opcode.toNat = 0x64))
    ⟨fun ⟨isDefined, pushes, jumps⟩ => ⟨isDefined, pushes, jumps⟩,
      fun ⟨isDefined, pushes, jumps⟩ => ⟨isDefined, pushes, jumps⟩⟩

end Opcode

namespace Instruction

/-- The opcodes of pushes whose item stands behind its length, with the number of bytes in
which the length is written. -/
def sizes : List (Opcode × Nat) :=
  [(0x4c, 1), (0x4d, 2), (0x4e, 4)]

theorem mem_sizes {opcode : Opcode} {width : Nat} :
    (opcode, width) ∈ sizes ↔
      opcode = 0x4c ∧ width = 1 ∨ opcode = 0x4d ∧ width = 2 ∨ opcode = 0x4e ∧ width = 4 := by
  simp [sizes]

theorem toNat_of_mem_sizes {opcode : Opcode} {width : Nat} (wide : (opcode, width) ∈ sizes) :
    0x4c ≤ opcode.toNat ∧ opcode.toNat ≤ 0x4e := by
  rcases mem_sizes.mp wide with ⟨rfl, -⟩ | ⟨rfl, -⟩ | ⟨rfl, -⟩
  all_goals decide

/-- The bytes that spell an instruction, beginning with its opcode. -/
inductive Encodes : Instruction → Bytes → Prop
  | direct {opcode : Opcode} {data : Bytes} (sized : data.length = opcode.toNat)
      (range : 1 ≤ opcode.toNat ∧ opcode.toNat ≤ 75) :
      Encodes ⟨opcode, 1 + data.length, data⟩ (opcode :: data)
  | sized {opcode : Opcode} {width : Nat} {data : Bytes} (wide : (opcode, width) ∈ sizes)
      (fits : data.length < Bytes.capacity width) (short : data.length ≤ maxLength) :
      Encodes ⟨opcode, 1 + width + data.length, data⟩
        (opcode :: (Bytes.littleEndian width data.length ++ data))
  | jump {opcode : Opcode} {target : Bytes}
      (jumps : opcode.toNat = 0x63 ∨ opcode.toNat = 0x64) (whole : target.length = 4) :
      Encodes ⟨opcode, 5, target⟩ (opcode :: target)
  | minusOne : Encodes ⟨0x4f, 1, Number.write (-1)⟩ [0x4f]
  | small {opcode : Opcode} (range : 0x51 ≤ opcode.toNat ∧ opcode.toNat ≤ 0x60) :
      Encodes ⟨opcode, 1, [opcode - 0x50]⟩ [opcode]
  | bare {opcode : Opcode} (single : opcode.toNat = 0 ∨ opcode.toNat = 0x50 ∨
        0x60 < opcode.toNat ∧ opcode.toNat ≠ 0x63 ∧ opcode.toNat ≠ 0x64) :
      Encodes ⟨opcode, 1, []⟩ [opcode]

variable {bytes program code : Bytes} {instruction : Instruction}

/-! ### Decoding one instruction -/

theorem immediate_eq_ok {front : Bytes} {length : Nat} :
    immediate bytes length = .ok front ↔
      front.length = length ∧ ∃ rest, bytes = front ++ rest := by
  constructor
  · intro found
    unfold immediate at found
    simp only at found
    split at found
    · rename_i whole
      cases found
      exact ⟨whole, bytes.drop length, (List.take_append_drop length bytes).symm⟩
    · cases found
  · rintro ⟨rfl, rest, rfl⟩
    simp [immediate]

theorem fixedData_eq_ok_iff {opcode : Opcode} {length : Nat} :
    fixedData opcode bytes length = .ok instruction ↔
      ∃ data rest, data.length = length ∧ bytes = data ++ rest ∧
        instruction = ⟨opcode, 1 + length, data⟩ := by
  simp only [fixedData, Checks.bind_eq_ok, Checks.pure_eq_ok, Except.ok.injEq,
    immediate_eq_ok]
  constructor
  · rintro ⟨data, ⟨sized, rest, rfl⟩, rfl⟩
    exact ⟨data, rest, sized, rfl, rfl⟩
  · rintro ⟨data, rest, sized, rfl, rfl⟩
    exact ⟨data, ⟨sized, rest, rfl⟩, rfl⟩

theorem sizedPush_eq_ok_iff {opcode : Opcode} {width : Nat} :
    sizedPush opcode bytes width = .ok instruction ↔
      ∃ data rest, data.length < Bytes.capacity width ∧ data.length ≤ maxLength ∧
        bytes = Bytes.littleEndian width data.length ++ data ++ rest ∧
        instruction = ⟨opcode, 1 + width + data.length, data⟩ := by
  constructor
  · intro decoded
    obtain ⟨written, front, decoded⟩ := Checks.bind_eq_ok.mp decoded
    obtain ⟨rfl, behind, rfl⟩ := immediate_eq_ok.mp front
    simp only at decoded
    split at decoded
    · cases decoded
    · rename_i short
      obtain ⟨data, carried, made⟩ := Checks.bind_eq_ok.mp decoded
      rw [List.drop_left] at carried
      obtain ⟨sized, rest, rfl⟩ := immediate_eq_ok.mp carried
      cases made
      have fits := Bytes.ofLittleEndian_lt written
      refine ⟨data, rest, sized ▸ fits, by omega, ?_, by rw [sized]⟩
      rw [sized, Bytes.littleEndian_ofLittleEndian, List.append_assoc]
  · rintro ⟨data, rest, fits, short, rfl, rfl⟩
    have front : immediate (Bytes.littleEndian width data.length ++ data ++ rest) width =
        .ok (Bytes.littleEndian width data.length) :=
      immediate_eq_ok.mpr ⟨Bytes.length_littleEndian _ _, data ++ rest, by simp⟩
    have behind : (Bytes.littleEndian width data.length ++ data ++ rest).drop width =
        data ++ rest := by
      rw [List.append_assoc, List.drop_left' (Bytes.length_littleEndian _ _)]
    have carried : immediate (data ++ rest) data.length = .ok data :=
      immediate_eq_ok.mpr ⟨rfl, rest, rfl⟩
    rw [sizedPush, front, Checks.ok_bind, behind, Bytes.ofLittleEndian_littleEndian fits]
    simp only
    rw [if_neg (by omega), carried]
    rfl

/-- What spells an instruction is decoded, whatever follows. -/
theorem Encodes.ofBytes_append (encodes : Encodes instruction code) (rest : Bytes) :
    ofBytes (code ++ rest) = .ok instruction := by
  cases encodes with
  | direct sized range =>
      rw [List.cons_append, ofBytes]
      rw [if_pos range]
      exact fixedData_eq_ok_iff.mpr ⟨_, rest, sized, rfl, by rw [sized]⟩
  | @sized opcode width data wide fits short =>
      have decoded : sizedPush opcode (Bytes.littleEndian width data.length ++ data ++ rest)
          width = .ok ⟨opcode, 1 + width + data.length, data⟩ :=
        sizedPush_eq_ok_iff.mpr ⟨data, rest, fits, short, rfl, rfl⟩
      rcases mem_sizes.mp wide with ⟨rfl, rfl⟩ | ⟨rfl, rfl⟩ | ⟨rfl, rfl⟩
      · exact decoded
      · exact decoded
      · exact decoded
  | jump jumps whole =>
      rw [List.cons_append, ofBytes]
      rw [if_neg (by omega), if_neg (by omega), if_neg (by omega), if_neg (by omega),
        if_pos jumps]
      exact fixedData_eq_ok_iff.mpr ⟨_, rest, whole, rfl, rfl⟩
  | minusOne => rfl
  | small range =>
      rw [List.cons_append, ofBytes]
      rw [if_neg (by omega), if_neg (by omega), if_neg (by omega), if_neg (by omega),
        if_neg (by omega), if_neg (by omega), if_pos range]
  | bare single =>
      rw [List.cons_append, ofBytes]
      rw [if_neg (by omega), if_neg (by omega), if_neg (by omega), if_neg (by omega),
        if_neg (by omega), if_neg (by omega), if_neg (by omega)]

theorem Encodes.length_eq (encodes : Encodes instruction code) :
    code.length = instruction.length := by
  cases encodes with
  | direct => exact Nat.add_comm _ _
  | sized =>
      simp only [List.length_cons, List.length_append, Bytes.length_littleEndian]
      omega
  | jump jumps whole => rw [List.length_cons, whole]
  | minusOne | small | bare => rfl

/-- What is decoded is spelled by the front of the byte string. -/
theorem exists_encodes_of_ofBytes (decoded : ofBytes bytes = .ok instruction) :
    ∃ code rest, Encodes instruction code ∧ bytes = code ++ rest := by
  have pushes {opcode : Opcode} {after : Bytes} {width : Nat} (wide : (opcode, width) ∈ sizes)
      (found : sizedPush opcode after width = .ok instruction) :
      ∃ code rest, Encodes instruction code ∧ opcode :: after = code ++ rest := by
    obtain ⟨data, rest, fits, short, rfl, rfl⟩ := sizedPush_eq_ok_iff.mp found
    exact ⟨_, rest, .sized wide fits short, rfl⟩
  revert decoded
  fun_cases ofBytes bytes with
  | case1 => rintro ⟨⟩
  | case2 opcode after number range =>
      intro decoded
      obtain ⟨data, rest, sized, rfl, rfl⟩ := fixedData_eq_ok_iff.mp decoded
      exact ⟨opcode :: data, rest, sized ▸ .direct sized range, rfl⟩
  | case3 opcode after number _ same =>
      exact pushes (mem_sizes.mpr (.inl ⟨UInt8.toNat_inj.mp same, rfl⟩))
  | case4 opcode after number _ _ same =>
      exact pushes (mem_sizes.mpr (.inr (.inl ⟨UInt8.toNat_inj.mp same, rfl⟩)))
  | case5 opcode after number _ _ _ same =>
      exact pushes (mem_sizes.mpr (.inr (.inr ⟨UInt8.toNat_inj.mp same, rfl⟩)))
  | case6 opcode after number _ _ _ _ jumps =>
      intro decoded
      obtain ⟨target, rest, sized, rfl, rfl⟩ := fixedData_eq_ok_iff.mp decoded
      exact ⟨opcode :: target, rest, .jump jumps sized, rfl⟩
  | case7 opcode after number _ _ _ _ _ same =>
      rintro ⟨⟩
      have negative : opcode = 0x4f := UInt8.toNat_inj.mp same
      subst negative
      exact ⟨[0x4f], after, .minusOne, rfl⟩
  | case8 opcode after number _ _ _ _ _ _ range =>
      rintro ⟨⟩
      exact ⟨[opcode], after, .small range, rfl⟩
  | case9 opcode after number =>
      rintro ⟨⟩
      exact ⟨[opcode], after, .bare (by omega), rfl⟩

theorem Encodes.ne_nil (encodes : Encodes instruction code) : code ≠ [] := by
  cases encodes <;> exact List.cons_ne_nil _ _

/-! ### Decoding programs -/

variable {instructions : List Instruction} {codes : List Bytes}

/-- A program decodes to the instruction at its front and what the rest decodes to. -/
theorem decodeFrom_eq_ok (nonempty : program ≠ []) :
    decodeFrom program = .ok instructions ↔
      ∃ instruction others, ofBytes program = .ok instruction ∧
        decodeFrom (program.drop instruction.length) = .ok others ∧
        instruction :: others = instructions := by
  cases program with
  | nil => exact absurd rfl nonempty
  | cons opcode rest =>
      rw [decodeFrom]
      split
      · rename_i failed
        simp [failed]
      · rename_i found
        simp [found]

/-- In front of other bytes, a piece is decoded first. -/
theorem Encodes.decodeFrom_append (encodes : Encodes instruction code) (rest : Bytes) :
    decodeFrom (code ++ rest) = (decodeFrom rest).map (instruction :: ·) := by
  have first := encodes.ofBytes_append rest
  have behind : (code ++ rest).drop instruction.length = rest :=
    List.drop_left' encodes.length_eq
  cases whole : code ++ rest with
  | nil => exact absurd whole (List.append_ne_nil_of_left_ne_nil encodes.ne_nil rest)
  | cons opcode others =>
      rw [whole] at first behind
      rw [decodeFrom]
      split
      · rename_i failed
        cases failed.symm.trans first
      · rename_i found
        cases found.symm.trans first
        rw [behind]

/-- Pieces that spell instructions are decoded one after the other, and then what follows. -/
theorem decodeFrom_flatten_append (spelled : List.Forall₂ Encodes instructions codes)
    (rest : Bytes) :
    decodeFrom (codes.flatten ++ rest) = (decodeFrom rest).map (instructions ++ ·) := by
  induction spelled with
  | nil =>
      rw [List.flatten_nil, List.nil_append]
      cases decodeFrom rest with
      | error fault => rfl
      | ok others => rfl
  | @cons instruction code instructions codes encodes _ ih =>
      rw [List.flatten_cons, List.append_assoc, encodes.decodeFrom_append, ih]
      cases decodeFrom rest with
      | error fault => rfl
      | ok others => rfl

theorem decodeFrom_flatten (spelled : List.Forall₂ Encodes instructions codes) :
    decodeFrom codes.flatten = .ok instructions := by
  have decoded := decodeFrom_flatten_append spelled []
  rw [List.append_nil, decodeFrom] at decoded
  rw [decoded]
  exact congrArg Except.ok (List.append_nil instructions)

/-- What is decoded consists of pieces that spell the instructions. -/
theorem exists_codes_of_decodeFrom (decoded : decodeFrom program = .ok instructions) :
    ∃ codes, List.Forall₂ Encodes instructions codes ∧ codes.flatten = program := by
  induction instructions generalizing program with
  | nil =>
      cases program with
      | nil => exact ⟨[], .nil, rfl⟩
      | cons opcode rest =>
          obtain ⟨_, _, _, _, different⟩ :=
            (decodeFrom_eq_ok (List.cons_ne_nil _ _)).mp decoded
          cases different
  | cons instruction others ih =>
      have nonempty : program ≠ [] := by
        rintro rfl
        rw [decodeFrom] at decoded
        cases decoded
      obtain ⟨_, _, first, behind, same⟩ := (decodeFrom_eq_ok nonempty).mp decoded
      cases same
      obtain ⟨code, rest, encodes, rfl⟩ := exists_encodes_of_ofBytes first
      rw [List.drop_left' encodes.length_eq] at behind
      obtain ⟨codes, spelled, rfl⟩ := ih behind
      exact ⟨code :: codes, .cons encodes spelled, rfl⟩

theorem decodeProgram_eq_decodeFrom (short : program.length ≤ maxLength) :
    decodeProgram program = decodeFrom program :=
  if_neg (Nat.not_lt.mpr short)

theorem decodeProgram_eq_ok :
    decodeProgram program = .ok instructions ↔
      program.length ≤ maxLength ∧ decodeFrom program = .ok instructions := by
  by_cases short : program.length ≤ maxLength
  · rw [decodeProgram_eq_decodeFrom short]
    exact (and_iff_right short).symm
  · rw [decodeProgram, if_pos (Nat.lt_of_not_le short)]
    simp [short]

/-! ### Offsets -/

/-- Where an instruction of a program begins. -/
def offset (instructions : List Instruction) (index : Nat) : Nat :=
  ((instructions.take index).map length).sum

theorem map_length_of_spelled (spelled : List.Forall₂ Encodes instructions codes) :
    codes.map List.length = instructions.map length := by
  induction spelled with
  | nil => rfl
  | cons encodes _ ih => rw [List.map_cons, List.map_cons, encodes.length_eq, ih]

theorem offset_eq_of_spelled (spelled : List.Forall₂ Encodes instructions codes)
    (index : Nat) : offset instructions index = ((codes.map List.length).take index).sum := by
  rw [map_length_of_spelled spelled, offset, List.map_take]

/-- Behind the last instruction the program ends. -/
theorem offset_length (decoded : decodeFrom program = .ok instructions) :
    offset instructions instructions.length = program.length := by
  obtain ⟨codes, spelled, rfl⟩ := exists_codes_of_decodeFrom decoded
  rw [offset, List.take_length, ← map_length_of_spelled spelled, List.length_flatten]

theorem exists_code_at (spelled : List.Forall₂ Encodes instructions codes) {index : Nat}
    (present : instructions[index]? = some instruction) :
    ∃ code, codes[index]? = some code ∧ Encodes instruction code := by
  induction spelled generalizing index with
  | nil => simp at present
  | @cons _ code _ _ encodes _ ih =>
      cases index with
      | zero =>
          cases present
          exact ⟨code, rfl, encodes⟩
      | succ index => exact ih present

/-- The piece that spells an instruction stands at its offset. -/
theorem exists_drop_offset (spelled : List.Forall₂ Encodes instructions codes) {index : Nat}
    (present : codes[index]? = some code) :
    ∃ rest, codes.flatten.drop (offset instructions index) = code ++ rest := by
  obtain ⟨bound, rfl⟩ := List.getElem?_eq_some_iff.mp present
  refine ⟨(codes.drop (index + 1)).flatten, ?_⟩
  rw [offset_eq_of_spelled spelled, List.drop_sum_flatten, List.drop_eq_getElem_cons bound,
    List.flatten_cons]

/-- The bytes from the offset of an instruction on, as many as it is long, are its piece. -/
theorem take_drop_offset (spelled : List.Forall₂ Encodes instructions codes) {index : Nat}
    (placed : codes[index]? = some code) (encodes : Encodes instruction code) :
    (codes.flatten.drop (offset instructions index)).take instruction.length = code := by
  obtain ⟨rest, behind⟩ := exists_drop_offset spelled placed
  rw [behind, List.take_left' encodes.length_eq]

/-- An instruction of a program is the one that is decoded at its offset. -/
theorem decode_offset (decoded : decodeFrom program = .ok instructions) {index : Nat}
    (present : instructions[index]? = some instruction) :
    decode program (offset instructions index) = .ok instruction := by
  obtain ⟨codes, spelled, rfl⟩ := exists_codes_of_decodeFrom decoded
  obtain ⟨code, placed, encodes⟩ := exists_code_at spelled present
  obtain ⟨rest, behind⟩ := exists_drop_offset spelled placed
  rw [decode, behind, encodes.ofBytes_append]

/-- No instruction has more data than a program may have bytes. -/
theorem Encodes.length_data_le (encodes : Encodes instruction code) :
    instruction.data.length ≤ maxLength := by
  cases encodes with
  | direct sized range =>
      have few : 0x4b ≤ maxLength := by decide
      simp only
      omega
  | sized wide fits short => exact short
  | jump jumps whole =>
      simp only [whole]
      decide
  | minusOne => decide
  | small | bare => simp [maxLength]

/-! ### Kinds of instructions -/

/-- A jump has a target. -/
theorem Encodes.length_of_jump (encodes : Encodes instruction code)
    (jumps : instruction.opcode.toNat = 0x63 ∨ instruction.opcode.toNat = 0x64) :
    instruction.data.length = 4 := by
  cases encodes with
  | direct sized range => simp only at jumps; omega
  | sized wide =>
      have range := toNat_of_mem_sizes wide
      simp only at jumps
      omega
  | jump _ whole => exact whole
  | minusOne => exact absurd jumps (by decide)
  | small range => simp only at jumps; omega
  | bare single => simp only at jumps; omega

/-- What does not push is spelled by its opcode and its target alone. -/
theorem Encodes.eq_of_not_isPush (encodes : Encodes instruction code)
    (other : ¬ instruction.opcode.isPush = true) :
    code = instruction.opcode :: instruction.data := by
  rw [Opcode.isPush_iff] at other
  cases encodes with
  | direct sized range => simp only at other; omega
  | sized wide =>
      have range := toNat_of_mem_sizes wide
      simp only at other
      omega
  | minusOne => exact absurd (by decide) other
  | small range => simp only at other; omega
  | jump | bare => rfl

theorem Encodes.eq_of_minusOne (encodes : Encodes instruction code)
    (negative : instruction.opcode = 0x4f) : code = [0x4f] := by
  have number : instruction.opcode.toNat = 0x4f := congrArg UInt8.toNat negative
  cases encodes with
  | direct sized range => simp only at number; omega
  | sized wide =>
      have range := toNat_of_mem_sizes wide
      simp only at number
      omega
  | jump jumps => simp only at number; omega
  | minusOne => rfl
  | small range => simp only at number; omega
  | bare single => simp only at number; omega

theorem Encodes.eq_minusOne (encodes : Encodes instruction code)
    (negative : instruction.opcode = 0x4f) :
    instruction = ⟨0x4f, 1, Number.write (-1)⟩ := by
  have bytes := encodes.eq_of_minusOne negative
  subst bytes
  have decoded := encodes.ofBytes_append []
  exact (Except.ok.inj decoded).symm

end Instruction

end EntryLedger
