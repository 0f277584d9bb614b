import EntryLedger.Proofs.Machine.Exact
import EntryLedger.Proofs.Machine.Numerals
import EntryLedger.Proofs.Machine.Shortest

/-!
# Programs put together

The code of an instruction tells where it ends.  What is appended to a program therefore leaves
its instructions alone, and a program that is put together from pieces of code consists of the
instructions that the pieces stand for.
-/

namespace EntryLedger

namespace Instruction

/-- An instruction that pushes an item which denotes a number. -/
structure PushesNumber (number : Int) (instruction : Instruction) : Prop where
  isPush : instruction.opcode.isPush = true
  read : Number.read instruction.data = some number

/-- The code of an instruction of some kind, wherever it stands in a program. -/
def Spelled (kind : Instruction → Prop) (code : Bytes) : Prop :=
  ∃ instruction, kind instruction ∧ instruction.length = code.length ∧
    ∀ before after, decode (before ++ code ++ after) before.length = .ok instruction

/-- The instructions of a program, which tells where each of them ends. -/
structure Delimits (program : Bytes) (instructions : List Instruction) : Prop where
  /-- What is appended is decoded by itself, and fails by itself. -/
  append : ∀ rest, (program ++ rest).length ≤ maxLength →
    decodeProgram (program ++ rest) = (decodeProgram rest).map (instructions ++ ·)
  total : (instructions.map length).sum = program.length
  /-- An instruction is decoded from its own bytes, whatever stands behind them. -/
  within : ∀ index instruction, instructions[index]? = some instruction →
    let ends := offset instructions index + instruction.length
    ends ≤ program.length ∧
      ∀ rest, decode (program.take ends ++ rest) (offset instructions index) = .ok instruction

variable {instruction : Instruction} {instructions : List Instruction} {code program : Bytes}

theorem Encodes.decode_within (encodes : Encodes instruction code) (before after : Bytes) :
    decode (before ++ code ++ after) before.length = .ok instruction := by
  rw [decode, List.append_assoc, List.drop_left, encodes.ofBytes_append]

theorem Encodes.spelled {kind : Instruction → Prop} (encodes : Encodes instruction code)
    (isKind : kind instruction) : Spelled kind code :=
  ⟨instruction, isKind, encodes.length_eq.symm, encodes.decode_within⟩

/-! ### Programs in front of others -/

theorem decodeProgram_append (decoded : decodeProgram program = .ok instructions)
    (rest : Bytes) (short : (program ++ rest).length ≤ maxLength) :
    decodeProgram (program ++ rest) = (decodeProgram rest).map (instructions ++ ·) := by
  obtain ⟨codes, spelled, rfl⟩ := exists_codes_of_decodeFrom (decodeProgram_eq_ok.mp decoded).2
  have restShort : rest.length ≤ maxLength := by
    rw [List.length_append] at short
    omega
  rw [decodeProgram_eq_decodeFrom short, decodeProgram_eq_decodeFrom restShort]
  exact decodeFrom_flatten_append spelled rest

theorem decode_take_offset (decoded : decodeFrom program = .ok instructions) {index : Nat}
    (present : instructions[index]? = some instruction) :
    offset instructions index + instruction.length ≤ program.length ∧
      ∀ rest, decode (program.take (offset instructions index + instruction.length) ++ rest)
        (offset instructions index) = .ok instruction := by
  obtain ⟨codes, spelled, rfl⟩ := exists_codes_of_decodeFrom decoded
  obtain ⟨code, placed, encodes⟩ := exists_code_at spelled present
  obtain ⟨behind, drop_eq⟩ := exists_drop_offset spelled placed
  have lengths := congrArg List.length drop_eq
  have positive := List.length_pos_of_ne_nil encodes.ne_nil
  rw [List.length_drop, List.length_append, encodes.length_eq] at lengths
  rw [encodes.length_eq] at positive
  have front : (codes.flatten.take (offset instructions index)).length =
      offset instructions index :=
    List.length_take_of_le (by omega)
  refine ⟨by omega, fun rest => ?_⟩
  have decodes := encodes.decode_within (codes.flatten.take (offset instructions index)) rest
  rwa [front, ← take_drop_offset spelled placed encodes, ← List.take_add] at decodes

theorem delimits (decoded : decodeProgram program = .ok instructions) :
    Delimits program instructions where
  append := decodeProgram_append decoded
  total := by
    have ends := offset_length (decodeProgram_eq_ok.mp decoded).2
    rwa [offset, List.take_length] at ends
  within := fun _ _ present => decode_take_offset (decodeProgram_eq_ok.mp decoded).2 present

end Instruction

namespace Code

open Instruction

/-! ### Pieces of code -/

theorem spelled_push {item : Bytes} (short : item.length ≤ maxLength) :
    Spelled (Pushes item) (push item) := by
  obtain ⟨instruction, encodes, pushes, -⟩ := exists_encodes_push short
  exact encodes.spelled pushes

/-- The code of a number pushes an item that denotes it. -/
theorem exists_encodes_pushNumber {number : Int} (inWord : Number.fits number = true) :
    ∃ instruction, Encodes instruction (pushNumber number) ∧ PushesNumber number instruction := by
  obtain ⟨instruction, isShortest, same, pushes⟩ := exists_isShortest_pushNumber number
  refine ⟨instruction, same ▸ isShortest.encodes, pushes.isPush, ?_⟩
  rw [pushes.data, Number.read_write inWord]

theorem spelled_pushNumber {number : Int} (inWord : Number.fits number = true) :
    Spelled (PushesNumber number) (pushNumber number) := by
  obtain ⟨instruction, encodes, pushes⟩ := exists_encodes_pushNumber inWord
  exact encodes.spelled pushes

namespace Part

/-- A part that is an instruction by itself. -/
def Whole : Part → Prop
  | operation opcode => ∃ instruction, ofBytes [opcode] = .ok instruction
  | item content => content.length ≤ maxLength
  | number value => Number.fits value = true
  | jump opcode _ => opcode = 0x63 ∨ opcode = 0x64

/-- The instruction that a part is put in for. -/
def Denotes : Part → Instruction → Prop
  | operation opcode, instruction => ofBytes [opcode] = .ok instruction
  | item content, instruction => Pushes content instruction
  | number value, instruction => PushesNumber value instruction
  | jump opcode target, instruction =>
      instruction.opcode = opcode ∧ instruction.data = Bytes.littleEndian 4 target.toNat

theorem Whole.exists_encodes {part : Part} (whole : part.Whole) :
    ∃ instruction, part.Denotes instruction ∧ Encodes instruction part.code := by
  cases part with
  | operation opcode =>
      obtain ⟨instruction, decoded⟩ := whole
      obtain ⟨code, rest, encodes, split⟩ := exists_encodes_of_ofBytes decoded
      obtain ⟨rfl, -⟩ | ⟨rfl, -⟩ := List.singleton_eq_append_iff.mp split
      · exact absurd rfl encodes.ne_nil
      · exact ⟨instruction, decoded, encodes⟩
  | item content =>
      obtain ⟨instruction, encodes, pushes, -⟩ := exists_encodes_push whole
      exact ⟨instruction, pushes, encodes⟩
  | number value =>
      obtain ⟨instruction, encodes, pushes⟩ := exists_encodes_pushNumber whole
      exact ⟨instruction, pushes, encodes⟩
  | jump opcode target =>
      have jumps : opcode.toNat = 0x63 ∨ opcode.toNat = 0x64 :=
        whole.imp (congrArg UInt8.toNat) (congrArg UInt8.toNat)
      exact ⟨_, ⟨rfl, rfl⟩, encodes_jump jumps target⟩

end Part

variable {parts : List Part}

theorem exists_spelled_parts (whole : ∀ part ∈ parts, part.Whole) :
    ∃ built, List.Forall₂ Part.Denotes parts built ∧
      List.Forall₂ Encodes built (parts.map Part.code) := by
  induction parts with
  | nil => exact ⟨[], .nil, .nil⟩
  | cons part parts ih =>
      obtain ⟨first, others⟩ := List.forall_mem_cons.mp whole
      obtain ⟨instruction, denotes, encodes⟩ := first.exists_encodes
      obtain ⟨built, denoted, spelled⟩ := ih others
      exact ⟨instruction :: built, .cons denotes denoted, .cons encodes spelled⟩

/-- A program that is built of whole parts decodes to the instructions of the parts. -/
theorem exists_decodeProgram_build (whole : ∀ part ∈ parts, part.Whole)
    (short : (build parts).length ≤ maxLength) :
    ∃ built, List.Forall₂ Part.Denotes parts built ∧ decodeProgram (build parts) = .ok built := by
  obtain ⟨built, denoted, spelled⟩ := exists_spelled_parts whole
  refine ⟨built, denoted, ?_⟩
  rw [decodeProgram_eq_decodeFrom short, build, List.flatMap_def]
  exact decodeFrom_flatten spelled

/-- A program to which a push was appended has one more instruction. -/
theorem exists_decodeProgram_push {program item : Bytes} {instructions : List Instruction}
    (decoded : decodeProgram program = .ok instructions)
    (short : (program ++ push item).length ≤ maxLength) :
    ∃ pushed, Pushes item pushed ∧
      decodeProgram (program ++ push item) = .ok (instructions ++ [pushed]) := by
  have pushShort : (push item).length ≤ maxLength := by
    rw [List.length_append] at short
    omega
  obtain ⟨pushed, encodes, pushes, -⟩ :=
    exists_encodes_push (Nat.le_trans (length_le_length_push item) pushShort)
  have alone := decodeFrom_flatten (.cons encodes .nil)
  rw [List.flatten_cons, List.flatten_nil, List.append_nil] at alone
  refine ⟨pushed, pushes, ?_⟩
  rw [decodeProgram_append decoded _ short, decodeProgram_eq_decodeFrom pushShort, alone]
  rfl

end Code

namespace Machine

open Instruction

variable {context : Context} {machine : Machine} {instruction : Instruction}

/-! ### Steps -/

/-- With enough gas, a machine at a push either finds the deadline passed or pushes the item. -/
theorem step_push
    (decoded : decode machine.tape.program machine.position = .ok instruction)
    (pushes : instruction.opcode.isPush = true) (known : 1 ≤ machine.version)
    (room : machine.position + instruction.length < 0x100000000)
    (enough : 9 + instruction.data.length ≤ machine.credit) :
    (machine.books.meter.expired = true ∧
        ∃ after, (step context).run machine = .error (.fault .deadlineExceeded) after) ∨
      ∃ after, (step context).run machine = .ok none after ∧
        after.stack = instruction.data :: machine.stack ∧ after.alt = machine.alt ∧
        after.position = machine.position + instruction.length ∧
        Spends (9 + instruction.data.length) machine after := by
  have version : instruction.opcode.since ≤ machine.version :=
    (Opcode.since_of_isPush pushes).symm ▸ known
  have fetched := fetch_eq_ok.mpr ⟨decoded, Opcode.operation_of_isPush pushes, version⟩
  exact (Takes.stepWith_push fetched room).ends_step enough

/-- With enough gas, an item is appended as a push to the program under it. -/
theorem step_concatPush {item program : Bytes} {below : List Bytes}
    (fetched : machine.fetch = .ok (instruction, .splice .concatPush))
    (stacked : machine.stack = item :: program :: below)
    (room : machine.position + instruction.length < 0x100000000)
    (enough : 12 + (program ++ Code.push item).length ≤ machine.credit) :
    (machine.books.meter.expired = true ∧
        ∃ after, (step context).run machine = .error (.fault .deadlineExceeded) after) ∨
      ∃ after, (step context).run machine = .ok none after ∧
        after.stack = (program ++ Code.push item) :: below ∧ after.alt = machine.alt ∧
        after.position = machine.position + instruction.length ∧
        Spends (12 + (program ++ Code.push item).length) machine after := by
  have allowed : machine.allow instruction (.splice .concatPush) = .ok () := by
    refine allow_eq_ok ?_ room
    rw [stacked]
    exact Nat.le_add_left 2 below.length
  have effective : Splice.effect .concatPush machine.stack =
      .push below [program ++ Code.push item] := by
    rw [stacked]
    rfl
  have gas : (Operation.splice .concatPush).cost +
      (StackEffect.push below [program ++ Code.push item]).gas =
        12 + (program ++ Code.push item).length := by
    change 4 + (0 + (8 + (program ++ Code.push item).length + 0)) = _
    omega
  rw [← gas] at enough ⊢
  exact ends_of_affect rfl effective fetched allowed enough rfl

end Machine

namespace Code

open Instruction

/-- The instructions of a program stay what they are in front of others, add up to its length,
and read nothing behind it.  The code of an item pushes the item and the code of a number pushes
an item that denotes the number, wherever the code stands, and a machine pushes what the
instruction that it is at tells.  A program that is built of whole parts has the instructions of
the parts, and appending an item to a program on the stack adds one instruction, which pushes
that item. -/
theorem pushes_survive_concatenation (context : Context) {program : Bytes}
    {instructions : List Instruction} (decoded : decodeProgram program = .ok instructions) :
    Delimits program instructions ∧
      (∀ item, item.length ≤ maxLength → Spelled (Pushes item) (push item)) ∧
      (∀ number, Number.fits number = true →
        Spelled (PushesNumber number) (pushNumber number)) ∧
      (∀ parts, (∀ part ∈ parts, part.Whole) → (build parts).length ≤ maxLength →
        ∃ built, List.Forall₂ Part.Denotes parts built ∧
          decodeProgram (build parts) = .ok built) ∧
      ∀ machine : Machine,
        let ended := (Machine.step context).run machine
        let late := machine.books.meter.expired = true ∧
          ∃ after, ended = .error (.fault .deadlineExceeded) after
        (∀ instruction item below,
          machine.fetch = .ok (instruction, .splice .concatPush) →
          machine.stack = item :: program :: below →
          machine.position + instruction.length < 0x100000000 →
          12 + (program ++ push item).length ≤ machine.credit →
          (program ++ push item).length ≤ maxLength →
          late ∨ ∃ after pushed, ended = .ok none after ∧
            after.stack = (program ++ push item) :: below ∧ Pushes item pushed ∧
            decodeProgram (program ++ push item) = .ok (instructions ++ [pushed])) ∧
        ∀ instruction, decode machine.tape.program machine.position = .ok instruction →
          instruction.opcode.isPush = true → 1 ≤ machine.version →
          machine.position + instruction.length < 0x100000000 →
          9 + instruction.data.length ≤ machine.credit →
          late ∨ ∃ after, ended = .ok none after ∧
            after.stack = instruction.data :: machine.stack ∧
            after.position = machine.position + instruction.length := by
  refine ⟨delimits decoded, fun _ => spelled_push, fun _ => spelled_pushNumber,
    fun _ => exists_decodeProgram_build, fun machine => ⟨?concatenates, ?pushes⟩⟩
  case concatenates =>
    intro instruction item below fetched stacked room enough short
    obtain ⟨pushed, pushes, longer⟩ := exists_decodeProgram_push decoded short
    refine (Machine.step_concatPush fetched stacked room enough).imp_right ?_
    rintro ⟨after, ran, items, -⟩
    exact ⟨after, pushed, ran, items, pushes, longer⟩
  case pushes =>
    intro instruction placed pushes known room enough
    refine (Machine.step_push placed pushes known room enough).imp_right ?_
    rintro ⟨after, ran, items, -, position, -⟩
    exact ⟨after, ran, items, position⟩

/-- The item on top is to be appended to the program under it. -/
def appendingMachine : Machine :=
  { Machine.start [0x89] 1 (.ofMeter (.flat 100) false) with stack := [[7, 7], [0x76]] }

theorem appendingMachine_pushes_back :
    ∃ after pushed, (Machine.step Machine.bareContext).run appendingMachine = .ok none after ∧
      after.stack = [[0x76, 0x02, 7, 7]] ∧ Pushes [7, 7] pushed ∧
      decodeProgram [0x76, 0x02, 7, 7] = .ok [⟨0x76, 1, []⟩, pushed] := by
  have decoded : decodeProgram [0x76] = .ok [⟨0x76, 1, []⟩] := by
    have bare : Encodes ⟨0x76, 1, []⟩ [0x76] := .bare (by decide)
    exact decodeFrom_flatten (.cons bare .nil)
  have fetched : appendingMachine.fetch = .ok (⟨0x89, 1, []⟩, .splice .concatPush) := by
    decide +kernel
  obtain ⟨-, -, -, -, steps⟩ := pushes_survive_concatenation Machine.bareContext decoded
  rcases (steps appendingMachine).1 _ [7, 7] [] fetched rfl (by decide) (by decide) (by decide)
    with ⟨expired, -⟩ | appended
  · exact absurd expired (by decide)
  · exact appended

end Code

end EntryLedger
