import EntryLedger.Proofs.Assembly.Compilation
import EntryLedger.Proofs.Assembly.Listing

/-!
# Listings assemble to the programs that they list

A listing assembles to the shortest code of the instructions that it lists.  That code decodes
to instructions that do the same, and it is the program that was listed unless a push in the
program is longer than it needs to be.  What was assembled has no such push.
-/

namespace EntryLedger

open Instruction

variable {instructions : List Instruction} {codes : List Bytes} {code again : Bytes}

namespace Assembly

variable {statements : List LocatedStatement}

theorem encode_of_codes {offsetOf : String → Option UInt32}
    (compiled : List.Forall₂ (fun located code => located.statement.code offsetOf = .ok code)
      statements codes) : encode offsetOf statements = .ok codes.flatten := by
  induction compiled with
  | nil => rfl
  | cons first _ ih =>
      rw [encode, first]
      simp only [ih]
      rfl

/-- Statements without labels have the code of one behind the other. -/
theorem compile_of_codes
    (compiled : List.Forall₂
      (fun statement code => ∀ offsetOf, statement.code offsetOf = .ok code)
      (statements.map LocatedStatement.statement) codes)
    (unlabelled : ∀ statement ∈ statements.map LocatedStatement.statement,
      statement.defines? = none)
    (short : codes.flatten.length ≤ maxLength) :
    compile statements = .ok codes.flatten := by
  rw [List.forall₂_map_left_iff] at compiled
  have measured : codes.flatten.length = codeLength statements :=
    length_of_compiled (compiled.imp fun _ _ has => has fun _ => none)
  have room : 0 + codeLength statements < addressable := by
    have bound : maxLength < addressable := by decide
    omega
  have nothing : defined statements = [] :=
    List.filterMap_eq_nil_iff.mpr fun located member =>
      unlabelled _ (List.mem_map_of_mem member)
  rcases placeLabels_cases [] room with ⟨-, places, placed, -⟩ | ⟨stale, -⟩
  · rw [compile, placed, Checks.ok_bind]
    exact encode_of_codes (compiled.imp fun _ _ has => has _)
  · rw [fresh_nil, nothing] at stale
    exact absurd List.nodup_nil stale

theorem length_of_compile (compiled : compile statements = .ok code) :
    code.length = codeLength statements := by
  obtain ⟨places, -, encoded⟩ := Checks.bind_eq_ok.mp compiled
  rcases encode_cases (offset? places) statements with ⟨-, codes, made, all⟩ |
    ⟨name, line, conditional, failed, -⟩
  · rw [encoded, Except.ok.injEq] at made
    rw [made, length_of_compiled all]
  · rw [encoded] at failed
    cases failed

end Assembly

/-! ### Shortest code -/

namespace Instruction

theorem exists_encodes_of_mem (spelled : List.Forall₂ Encodes instructions codes)
    {instruction : Instruction} (member : instruction ∈ instructions) :
    ∃ code, Encodes instruction code := by
  obtain ⟨index, present⟩ := List.mem_iff_getElem?.mp member
  obtain ⟨code, -, encodes⟩ := exists_code_at spelled present
  exact ⟨code, encodes⟩

theorem length_flatMap_shortest_le (spelled : List.Forall₂ Encodes instructions codes) :
    (instructions.flatMap shortest).length ≤ codes.flatten.length := by
  induction spelled with
  | nil => exact Nat.le_refl 0
  | cons encodes _ ih =>
      have first := encodes.length_shortest_le
      rw [List.flatMap_cons, List.flatten_cons, List.length_append, List.length_append]
      omega

/-- The shortest code of instructions decodes to instructions that do the same. -/
theorem exists_alike (spelled : List.Forall₂ Encodes instructions codes)
    (known : ∀ instruction ∈ instructions, instruction.opcode.isDefined = true) :
    ∃ others : List Instruction, (∀ other ∈ others, other.IsShortest) ∧
      others.flatMap shortest = instructions.flatMap shortest ∧
      List.Forall₂ Alike instructions others := by
  induction spelled with
  | nil => exact ⟨[], (fun _ member => by cases member), rfl, .nil⟩
  | @cons instruction code instructions codes encodes _ ih =>
      obtain ⟨isDefined, known⟩ := List.forall_mem_cons.mp known
      obtain ⟨others, all, same, alike⟩ := ih known
      obtain ⟨other, isShortest, equal, first⟩ := encodes.exists_isShortest isDefined
      refine ⟨other :: others, List.forall_mem_cons.mpr ⟨isShortest, all⟩, ?_,
        .cons first alike⟩
      rw [List.flatMap_cons, List.flatMap_cons, equal, same]

/-- Code is no longer than the shortest only where all of its pieces are the shortest. -/
theorem flatMap_shortest_eq_flatten (spelled : List.Forall₂ Encodes instructions codes) :
    instructions.flatMap shortest = codes.flatten ↔ codes = instructions.map shortest := by
  constructor
  · induction spelled with
    | nil => exact fun _ => rfl
    | @cons instruction code instructions codes encodes spelled ih =>
        intro same
        have first := encodes.length_shortest_le
        have rest := length_flatMap_shortest_le spelled
        have total := congrArg List.length same
        rw [List.flatMap_cons, List.flatten_cons] at same total
        rw [List.length_append, List.length_append] at total
        obtain ⟨front, behind⟩ := List.append_inj same (by omega)
        rw [List.map_cons, ← front, ← ih behind]
  · rintro rfl
    exact List.flatMap_def

/-- Instructions have their shortest code exactly if each push is the shortest one of its
item, other than that of minus one in a single byte. -/
theorem flatMap_shortest_eq_iff (spelled : List.Forall₂ Encodes instructions codes) :
    instructions.flatMap shortest = codes.flatten ↔
      ∀ index instruction, instructions[index]? = some instruction →
        instruction.opcode.isPush = true →
        instruction.opcode = 0x4f ∨
          (codes.flatten.drop (offset instructions index)).take instruction.length =
            Code.push instruction.data := by
  rw [flatMap_shortest_eq_flatten spelled]
  constructor
  · intro pieces index instruction present
    obtain ⟨code, placed, encodes⟩ := exists_code_at spelled present
    have short : code = instruction.shortest := by
      rw [pieces, List.getElem?_map, present] at placed
      exact (Option.some.inj placed).symm
    rw [take_drop_offset spelled placed encodes]
    exact encodes.eq_shortest_iff.mp short
  · intro pushes
    refine List.ext_getElem? fun index => ?_
    rw [List.getElem?_map]
    cases present : instructions[index]? with
    | none =>
        rw [List.getElem?_eq_none_iff, spelled.length_eq] at present
        exact List.getElem?_eq_none present
    | some instruction =>
        obtain ⟨code, placed, encodes⟩ := exists_code_at spelled present
        have short := pushes index instruction present
        rw [take_drop_offset spelled placed encodes] at short
        rw [placed, Option.map_some, encodes.eq_shortest_iff.mpr short]

end Instruction

/-! ### Listings -/

/-- Defined instructions have lines that say what they do. -/
theorem exists_lines (spelled : List.Forall₂ Encodes instructions codes)
    (known : ∀ instruction ∈ instructions, instruction.opcode.isDefined = true) :
    ∃ lines, List.Forall₂ (fun instruction line => instruction.line? = some line)
        instructions lines ∧
      List.Forall₂ Spells (lines.map String.toList) (instructions.map Instruction.statement) := by
  induction spelled with
  | nil => exact ⟨[], .nil, .nil⟩
  | cons encodes _ ih =>
      obtain ⟨first, others⟩ := List.forall_mem_cons.mp known
      obtain ⟨lines, all, read⟩ := ih others
      obtain ⟨line, listed⟩ := exists_line_iff.mpr first
      exact ⟨line :: lines, .cons listed all, .cons (spells_line encodes listed) read⟩

/-- The listing of defined instructions assembles to their shortest code. -/
theorem assemble_listing (spelled : List.Forall₂ Encodes instructions codes)
    (known : ∀ instruction ∈ instructions, instruction.opcode.isDefined = true)
    (short : codes.flatten.length ≤ maxLength) :
    ∃ text, disassemble codes.flatten = .ok text ∧
      assemble text = .ok (instructions.flatMap shortest) := by
  obtain ⟨lines, all, read⟩ := exists_lines spelled known
  have listed : disassemble codes.flatten = .ok ("\n".intercalate lines) := by
    rw [disassemble, Listing.linesFrom_eq_ok.mpr ⟨instructions, decodeFrom_flatten spelled, all⟩]
    rfl
  obtain ⟨statements, parsed, said⟩ := ofLexemes_intercalate read 1
  have source : LocatedStatement.ofSource ("\n".intercalate lines) = .ok statements := by
    rw [LocatedStatement.ofSource, LocatedLexeme.ofSource, String.toList_intercalate]
    exact parsed
  have compiled : Assembly.compile statements = .ok (instructions.map shortest).flatten := by
    refine Assembly.compile_of_codes ?_ ?_ ?_
    · rw [said, List.forall₂_map_left_iff, List.forall₂_map_right_iff, List.forall₂_same]
      intro instruction member
      obtain ⟨code, encodes⟩ := exists_encodes_of_mem spelled member
      exact code_statement encodes (known instruction member)
    · rw [said]
      exact List.forall_mem_map.mpr fun instruction _ => defines?_statement instruction
    · rw [← List.flatMap_def]
      exact Nat.le_trans (length_flatMap_shortest_le spelled) short
  refine ⟨_, listed, ?_⟩
  rw [assemble, source, Checks.mapError_ok, Checks.ok_bind, compiled, List.flatMap_def]
  rfl

theorem isDefined_of_lines {lines : List String}
    (all : List.Forall₂ (fun instruction line => instruction.line? = some line) instructions
      lines) : ∀ instruction ∈ instructions, instruction.opcode.isDefined = true := by
  induction all with
  | nil => exact fun _ member => by cases member
  | cons listed _ ih => exact List.forall_mem_cons.mpr ⟨exists_line_iff.mp ⟨_, listed⟩, ih⟩

/-- What has a listing decodes to defined instructions. -/
theorem exists_codes_of_disassemble {text : String} (listed : disassemble code = .ok text) :
    ∃ instructions codes, List.Forall₂ Encodes instructions codes ∧ codes.flatten = code ∧
      ∀ instruction ∈ instructions, instruction.opcode.isDefined = true := by
  obtain ⟨lines, written, -⟩ := Checks.map_eq_ok.mp listed
  obtain ⟨instructions, decoded, all⟩ := Listing.linesFrom_eq_ok.mp written
  obtain ⟨codes, spelled, whole⟩ := exists_codes_of_decodeFrom decoded
  exact ⟨instructions, codes, spelled, whole, isDefined_of_lines all⟩

/-- What is assembled is the shortest code of defined instructions. -/
theorem exists_isShortest_of_assemble {source : String} (assembled : assemble source = .ok code)
    (short : code.length ≤ maxLength) :
    ∃ instructions : List Instruction,
      (∀ instruction ∈ instructions, instruction.IsShortest) ∧
      instructions.flatMap shortest = code := by
  obtain ⟨statements, parsed, compiled⟩ := Checks.bind_eq_ok.mp assembled
  rw [Checks.mapError_eq_ok] at parsed compiled
  rw [Assembly.length_of_compile compiled] at short
  rcases Assembly.compile_cases short with ⟨-, name, line, firstLine, refused, -⟩ |
    ⟨-, name, line, conditional, refused, -⟩ | ⟨-, -, places, codes, made, locates, all⟩
  · rw [compiled] at refused
    cases refused
  · rw [compiled] at refused
    cases refused
  · rw [compiled, Except.ok.injEq] at made
    obtain ⟨instructions, isShortest, same, -⟩ := Assembly.exists_decoded locates all
      (fun _ _ => LocatedStatement.standsAlone_of_ofSource parsed) short
    exact ⟨instructions, isShortest, same.trans made.symm⟩

/-- The shortest code of defined instructions is assembled from its listing. -/
theorem assemble_listing_shortest
    (all : ∀ instruction ∈ instructions, instruction.IsShortest)
    (short : (instructions.flatMap shortest).length ≤ maxLength) :
    ∃ text, disassemble (instructions.flatMap shortest) = .ok text ∧
      assemble text = .ok (instructions.flatMap shortest) := by
  rw [List.flatMap_def] at short
  have listing := assemble_listing (spelled_of_isShortest all)
    (fun instruction member => (all instruction member).isDefined) short
  rwa [← List.flatMap_def] at listing

/-- A program has a listing exactly if it decodes and all of its opcodes are defined.  The
listing assembles to code that decodes to instructions which do the same; it is the program
itself exactly if each push is minus one in a single byte or the shortest of its item; and to
list and assemble it once more changes nothing.  What was assembled from any text comes back
as it is. -/
theorem disassemble_reassembles (short : code.length ≤ maxLength) :
    ((∃ text, disassemble code = .ok text) ↔
      ∃ instructions, decodeProgram code = .ok instructions ∧
        ∀ instruction ∈ instructions, instruction.opcode.isDefined = true) ∧
      (∀ text, disassemble code = .ok text →
        ∃ instructions again others, decodeProgram code = .ok instructions ∧
          assemble text = .ok again ∧ decodeProgram again = .ok others ∧
          List.Forall₂ Alike instructions others ∧
          (again = code ↔
            ∀ index instruction, instructions[index]? = some instruction →
              instruction.opcode.isPush = true →
              instruction.opcode = 0x4f ∨
                (code.drop (offset instructions index)).take instruction.length =
                  Code.push instruction.data) ∧
          ∃ relisted, disassemble again = .ok relisted ∧ assemble relisted = .ok again) ∧
      ∀ source, assemble source = .ok code →
        ∃ text, disassemble code = .ok text ∧ assemble text = .ok code := by
  refine ⟨⟨?_, ?_⟩, ?_, ?_⟩
  · rintro ⟨text, listed⟩
    obtain ⟨instructions, codes, spelled, rfl, known⟩ := exists_codes_of_disassemble listed
    exact ⟨instructions,
      (decodeProgram_eq_decodeFrom short).trans (decodeFrom_flatten spelled), known⟩
  · rintro ⟨instructions, decoded, known⟩
    rw [decodeProgram_eq_decodeFrom short] at decoded
    obtain ⟨codes, spelled, rfl⟩ := exists_codes_of_decodeFrom decoded
    obtain ⟨text, listed, -⟩ := assemble_listing spelled known short
    exact ⟨text, listed⟩
  · intro text listed
    obtain ⟨instructions, codes, spelled, rfl, known⟩ := exists_codes_of_disassemble listed
    obtain ⟨_, same, assembled⟩ := assemble_listing spelled known short
    rw [listed, Except.ok.injEq] at same
    subst same
    obtain ⟨others, all, equal, alike⟩ := exists_alike spelled known
    have shorter : (instructions.flatMap shortest).length ≤ maxLength :=
      Nat.le_trans (length_flatMap_shortest_le spelled) short
    have redecoded : decodeProgram (instructions.flatMap shortest) = .ok others := by
      rw [decodeProgram_eq_decodeFrom shorter, ← equal, decodeFrom_shortest all]
    refine ⟨instructions, _, others,
      (decodeProgram_eq_decodeFrom short).trans (decodeFrom_flatten spelled), assembled,
      redecoded, alike, flatMap_shortest_eq_iff spelled, ?_⟩
    rw [← equal] at shorter ⊢
    exact assemble_listing_shortest all shorter
  · intro source assembled
    obtain ⟨instructions, all, rfl⟩ := exists_isShortest_of_assemble assembled short
    exact assemble_listing_shortest all short

/-- A program that pushes a small number with an explicit length, and jumps back to it. -/
def paddedPush : Bytes :=
  [0x4c, 0x01, 0x05, 0x76, 0x63, 0x00, 0x00, 0x00, 0x00]

theorem disassemble_reassembles_of_paddedPush :
    paddedPush.length ≤ maxLength ∧
      ∃ text again, disassemble paddedPush = .ok text ∧ assemble text = .ok again ∧
        again ≠ paddedPush ∧
        ∃ relisted, disassemble again = .ok relisted ∧ assemble relisted = .ok again := by
  have short : paddedPush.length ≤ maxLength := by decide
  have decoded : decodeProgram paddedPush =
      .ok [⟨0x4c, 3, [0x05]⟩, ⟨0x76, 1, []⟩, ⟨0x63, 5, [0, 0, 0, 0]⟩] :=
    Checks.toOption_eq_some.mp (by decide +kernel)
  obtain ⟨lists, reassembles, -⟩ := disassemble_reassembles short
  obtain ⟨text, listed⟩ := lists.mpr ⟨_, decoded, by decide⟩
  obtain ⟨instructions, again, others, same, assembled, -, -, whole, relists⟩ :=
    reassembles text listed
  rw [decoded, Except.ok.injEq] at same
  subst same
  refine ⟨short, text, again, listed, assembled, fun equal => ?_, relists⟩
  have shortest := whole.mp equal 0 _ rfl rfl
  exact absurd shortest (by decide)

end EntryLedger
