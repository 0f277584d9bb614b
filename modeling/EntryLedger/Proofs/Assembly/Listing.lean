import EntryLedger.Assembly.Listing
import EntryLedger.Proofs.Assembly.Labels
import EntryLedger.Proofs.Assembly.Source
import EntryLedger.Proofs.Machine.Shortest

/-!
# What the lines of a listing say

The line of an instruction is read as a statement that has the shortest code of the
instruction.  A program has a listing exactly when it decodes and all opcodes are defined, and
then the listing has the lines of its instructions.
-/

namespace EntryLedger

namespace Instruction

/-- The statement that the line of an instruction says. -/
def statement (instruction : Instruction) : Statement :=
  let opcode := instruction.opcode
  let number := opcode.toNat
  if number = 0x00 then .number 0
  else if number = 0x4f then .number (-1)
  else if 0x51 ≤ number ∧ number ≤ 0x60 then .number ((number - 0x50 : Nat) : Int)
  else if number = 0x63 ∨ number = 0x64 then
    .jump (decide (number = 0x64))
      (.offset (UInt32.ofNat (Bytes.ofLittleEndian instruction.data)))
  else if opcode.isPush then .data instruction.data
  else .operation opcode

section Statement

variable {opcode : Opcode} {length : Nat} {data : Bytes}

theorem statement_push (written : 1 ≤ opcode.toNat ∧ opcode.toNat ≤ 0x4e) :
    statement ⟨opcode, length, data⟩ = .data data := by
  have pushes : opcode.isPush = true := Opcode.isPush_iff.mpr (by omega)
  simp only [statement]
  rw [if_neg (by omega), if_neg (by omega), if_neg (by omega), if_neg (by omega), if_pos pushes]

theorem statement_small (range : 0x51 ≤ opcode.toNat ∧ opcode.toNat ≤ 0x60) :
    statement ⟨opcode, length, data⟩ = .number ((opcode.toNat - 0x50 : Nat) : Int) := by
  simp only [statement]
  rw [if_neg (by omega), if_neg (by omega), if_pos range]

theorem statement_operation (pushes : ¬ opcode.isPush = true)
    (jumps : ¬ (opcode.toNat = 0x63 ∨ opcode.toNat = 0x64)) :
    statement ⟨opcode, length, data⟩ = .operation opcode := by
  rw [Opcode.isPush_iff] at pushes
  simp only [statement]
  rw [if_neg (by omega), if_neg (by omega), if_neg (by omega), if_neg jumps,
    if_neg (mt Opcode.isPush_iff.mp pushes)]

end Statement

variable {instruction : Instruction} {code : Bytes} {line : String}

/-- Only what is not defined has no line. -/
theorem exists_line_iff :
    (∃ line, instruction.line? = some line) ↔ instruction.opcode.isDefined = true := by
  have pushes (small : instruction.opcode.toNat ≤ 0x60)
      (other : instruction.opcode.toNat ≠ 0x50) : instruction.opcode.isDefined = true :=
    Opcode.isDefined_of_isPush (Opcode.isPush_iff.mpr ⟨small, other⟩)
  simp only [line?]
  split_ifs with zero negative range jumps isPush isDefined
  · simpa using pushes (by omega) (by omega)
  · simpa using pushes (by omega) (by omega)
  · simpa using pushes (by omega) (by omega)
  · rcases Opcode.eq_of_jumps jumps with same | same
    · simp [same, Opcode.isDefined, Opcode.operation?]
    · simp [same, Opcode.isDefined, Opcode.operation?]
  · simpa using Opcode.isDefined_of_isPush isPush
  · simpa using isDefined
  · simpa using isDefined

/-! ### Lines -/

section Lines

variable {opcode : Opcode} {length : Nat} {data : Bytes}

theorem spells_push (written : 1 ≤ opcode.toNat ∧ opcode.toNat ≤ 0x4e)
    (listed : line? ⟨opcode, length, data⟩ = some line) :
    Spells line.toList (statement ⟨opcode, length, data⟩) := by
  have pushes : opcode.isPush = true := Opcode.isPush_iff.mpr (by omega)
  simp only [line?] at listed
  rw [if_neg (by omega), if_neg (by omega), if_neg (by omega), if_neg (by omega),
    if_pos pushes, Option.some.injEq] at listed
  rw [statement_push written, ← listed]
  simpa [Hex.encode] using Spells.data (Hex.map_toLower_flatMap data)

theorem spells_small (range : 0x51 ≤ opcode.toNat ∧ opcode.toNat ≤ 0x60)
    (listed : line? ⟨opcode, length, data⟩ = some line) :
    Spells line.toList (statement ⟨opcode, length, data⟩) := by
  have fits : Number.fits ((opcode.toNat - 0x50 : Nat) : Int) = true := by
    simp only [Number.fits, decide_eq_true_eq]
    omega
  simp only [line?] at listed
  rw [if_neg (by omega), if_neg (by omega), if_pos range, Option.some.injEq] at listed
  rw [statement_small range, ← listed]
  simpa [Decimal.numeral, Nat.toList_repr] using Spells.number fits 0

theorem spells_target (jumps : opcode.toNat = 0x63 ∨ opcode.toNat = 0x64)
    (whole : data.length = 4) (listed : line? ⟨opcode, length, data⟩ = some line) :
    Spells line.toList (statement ⟨opcode, length, data⟩) := by
  have fits : Bytes.ofLittleEndian data < 0x100000000 := by
    have bound := Bytes.ofLittleEndian_lt data
    rwa [whole] at bound
  have exact : (UInt32.ofNat (Bytes.ofLittleEndian data)).toNat = Bytes.ofLittleEndian data :=
    UInt32.toNat_ofNat_of_lt' fits
  have spells (conditional : Bool) (named : SpellsName
      (Statement.jumpOpcode conditional).name.toList (Statement.jumpOpcode conditional)) :
      Spells ((Statement.jumpOpcode conditional).name ++ ":" ++
          toString (Bytes.ofLittleEndian data)).toList
        (.jump conditional (.offset (UInt32.ofNat (Bytes.ofLittleEndian data)))) := by
    have target := SpellsTarget.offset (UInt32.ofNat (Bytes.ofLittleEndian data)) 0
    rw [exact] at target
    simpa [Decimal.numeral, Nat.toList_repr] using Spells.jump named target
  rcases Opcode.eq_of_jumps jumps with rfl | rfl
  · rw [← Option.some.inj listed]
    exact spells false (.inl (by decide))
  · rw [← Option.some.inj listed]
    exact spells true (.inl (by decide))

theorem spells_bare (single : opcode.toNat = 0 ∨ opcode.toNat = 0x50 ∨
      0x60 < opcode.toNat ∧ opcode.toNat ≠ 0x63 ∧ opcode.toNat ≠ 0x64)
    (listed : line? ⟨opcode, length, data⟩ = some line) :
    Spells line.toList (statement ⟨opcode, length, data⟩) := by
  rcases single with zero | unassigned | ⟨above, notJump, notJumpIf⟩
  · have opcode_eq : opcode = 0x00 := UInt8.toNat_inj.mp zero
    subst opcode_eq
    rw [← Option.some.inj listed]
    have spells : Spells (Decimal.numeral 0 0) (.number (0 : Nat)) := .number (by decide) 0
    exact spells
  · have opcode_eq : opcode = 0x50 := UInt8.toNat_inj.mp unassigned
    subst opcode_eq
    cases listed
  · have other : ¬ opcode.isPush = true := by
      rw [Opcode.isPush_iff]
      omega
    simp only [line?] at listed
    rw [if_neg (by omega), if_neg (by omega), if_neg (by omega), if_neg (by omega),
      if_neg other] at listed
    split at listed
    · rename_i isDefined
      have alone : opcode.StandsAlone := ⟨isDefined, other, by omega⟩
      rw [statement_operation other (by omega), ← Option.some.inj listed]
      exact .operation alone (Opcode.spellsName_name alone)
    · cases listed

end Lines

/-- The line of an instruction spells what the instruction does. -/
theorem spells_line (encodes : Encodes instruction code)
    (listed : instruction.line? = some line) : Spells line.toList instruction.statement := by
  cases encodes with
  | direct sized range => exact spells_push (by omega) listed
  | sized wide =>
      have range := toNat_of_mem_sizes wide
      exact spells_push (by omega) listed
  | jump jumps whole => exact spells_target jumps whole listed
  | minusOne =>
      rw [← Option.some.inj listed]
      have spells : Spells ('-' :: Decimal.numeral 1 0) (.number (-(1 : Nat))) :=
        .negative (by decide) 0
      exact spells
  | small range => exact spells_small range listed
  | bare single => exact spells_bare single listed

/-! ### Code -/

/-- What the line of an instruction says has the shortest code of the instruction. -/
theorem code_statement (encodes : Encodes instruction code)
    (isDefined : instruction.opcode.isDefined = true) (offsetOf : String → Option UInt32) :
    instruction.statement.code offsetOf = .ok instruction.shortest := by
  have pushed {opcode : Opcode} {length : Nat} {data : Bytes}
      (written : 1 ≤ opcode.toNat ∧ opcode.toNat ≤ 0x4e) :
      (statement ⟨opcode, length, data⟩).code offsetOf =
        .ok (shortest ⟨opcode, length, data⟩) := by
    obtain ⟨pushes, positive⟩ : opcode.isPush = true ∧ opcode ≠ 0x4f :=
      Opcode.isPush_and_ne (by omega) (by omega)
    rw [statement_push written, shortest, if_neg positive, if_pos pushes, Statement.code]
  cases encodes with
  | direct sized range => exact pushed (by omega)
  | sized wide =>
      have range := toNat_of_mem_sizes wide
      exact pushed (by omega)
  | @jump opcode target jumps whole =>
      have same : Bytes.littleEndian 4 (UInt32.ofNat (Bytes.ofLittleEndian target)).toNat =
          target := by
        have fits := Bytes.ofLittleEndian_lt target
        rw [whole] at fits
        rw [UInt32.toNat_ofNat_of_lt' fits, ← whole, Bytes.littleEndian_ofLittleEndian]
      rcases Opcode.eq_of_jumps jumps with rfl | rfl
      · exact congrArg (fun bytes => Except.ok (0x63 :: bytes)) same
      · exact congrArg (fun bytes => Except.ok (0x64 :: bytes)) same
  | minusOne => rfl
  | @small opcode range =>
      obtain ⟨pushes, positive⟩ : opcode.isPush = true ∧ opcode ≠ 0x4f :=
        Opcode.isPush_and_ne (by omega) (by omega)
      have item : [UInt8.ofNat (opcode.toNat - 0x50)] = [opcode - 0x50] := by
        have difference : (opcode - 0x50).toNat = opcode.toNat - 0x50 :=
          UInt8.toNat_sub_of_le _ _ (UInt8.le_iff_toNat_le.mpr (Nat.le_trans (by decide) range.1))
        rw [← difference, UInt8.ofNat_toNat]
      rw [statement_small range, shortest, if_neg positive, if_pos pushes, Statement.code,
        Code.pushNumber_eq_push (by omega),
        Number.write_small (by omega) (by omega), item]
  | @bare opcode single =>
      rcases single with zero | unassigned | named
      · have opcode_eq : opcode = 0x00 := UInt8.toNat_inj.mp zero
        subst opcode_eq
        rfl
      · have opcode_eq : opcode = 0x50 := UInt8.toNat_inj.mp unassigned
        subst opcode_eq
        exact absurd isDefined (by decide)
      · have other : ¬ opcode.isPush = true := by
          rw [Opcode.isPush_iff]
          omega
        rw [shortest_of_not_isPush other, statement_operation other (by omega), Statement.code]

theorem defines?_statement (instruction : Instruction) :
    instruction.statement.defines? = none := by
  unfold statement
  simp only
  repeat' split
  all_goals rfl

end Instruction

namespace Listing

variable {offset : Nat} {program : Bytes} {lines : List String}

theorem linesFrom_eq_ok_cons (nonempty : program ≠ []) :
    linesFrom offset program = .ok lines ↔
      ∃ instruction line others, Instruction.ofBytes program = .ok instruction ∧
        instruction.line? = some line ∧
        linesFrom (offset + instruction.length) (program.drop instruction.length) = .ok others ∧
        line :: others = lines := by
  cases program with
  | nil => exact absurd rfl nonempty
  | cons opcode rest =>
      rw [linesFrom]
      split
      · rename_i failed
        simp [failed]
      · rename_i instruction found
        cases listed : instruction.line? with
        | none => simp [found, listed]
        | some line => simp [found, listed]

/-- A listing has the lines of the instructions that are decoded. -/
theorem linesFrom_eq_ok : linesFrom offset program = .ok lines ↔
    ∃ instructions, Instruction.decodeFrom program = .ok instructions ∧
      List.Forall₂ (fun instruction line => instruction.line? = some line) instructions
        lines := by
  induction program using Instruction.decodeFrom.induct generalizing offset lines with
  | case1 =>
      rw [linesFrom, Instruction.decodeFrom]
      constructor
      · rintro ⟨⟩
        exact ⟨[], rfl, .nil⟩
      · rintro ⟨instructions, ⟨⟩, ⟨⟩⟩
        rfl
  | case2 opcode rest fault failed =>
      rw [linesFrom_eq_ok_cons (List.cons_ne_nil _ _)]
      simp [Instruction.decodeFrom_eq_ok, failed]
  | case3 opcode rest instruction found ih =>
      rw [linesFrom_eq_ok_cons (List.cons_ne_nil _ _)]
      simp only [Instruction.decodeFrom_eq_ok (List.cons_ne_nil opcode rest), found,
        Except.ok.injEq]
      constructor
      · rintro ⟨_, line, others, rfl, listed, behind, rfl⟩
        obtain ⟨instructions, decoded, all⟩ := ih.mp behind
        exact ⟨_, ⟨_, instructions, rfl, decoded, rfl⟩, .cons listed all⟩
      · rintro ⟨_, ⟨_, instructions, rfl, decoded, rfl⟩, all⟩
        cases all with
        | cons listed all =>
            exact ⟨_, _, _, rfl, listed, ih.mpr ⟨instructions, decoded, all⟩, rfl⟩

end Listing

end EntryLedger
