import EntryLedger.Proofs.Machine.Solvent

/-!
# Programs that compare a hash

Both templates stand for programs of one shape: two bytes, a hash that is pushed, and a
tail.  The lemmas tell which instructions such a program has and what those instructions
do that the programs share.
-/

namespace EntryLedger

namespace Instruction

variable {first second opcode : UInt8} {hash tail : Bytes}

theorem decode_hash (sized : hash.length = opcode.toNat) (positive : 1 ≤ hash.length)
    (direct : hash.length ≤ 75) :
    decode (first :: second :: opcode :: (hash ++ tail)) 2 =
      .ok ⟨opcode, 1 + hash.length, hash⟩ := by
  change ofBytes (opcode :: (hash ++ tail)) = _
  rw [ofBytes, if_pos ⟨sized ▸ positive, sized ▸ direct⟩, ← sized]
  simp only [fixedData, immediate, List.take_left, if_pos]
  rfl

/-- Behind the hash the program goes on with its tail. -/
theorem decode_tail (index : Nat) :
    decode (first :: second :: opcode :: (hash ++ tail)) (3 + hash.length + index) =
      decode tail index := by
  have behind : (first :: second :: opcode :: (hash ++ tail)).drop (3 + hash.length + index) =
      tail.drop index := by
    have split : first :: second :: opcode :: (hash ++ tail) =
        (first :: second :: opcode :: hash) ++ tail :=
      rfl
    rw [split, ← List.drop_drop, List.drop_left' (by simp only [List.length_cons]; omega)]
  rw [decode, decode, behind]

end Instruction

namespace Machine

/-- A machine that runs a program of a version that knows all instructions of the first
one. -/
structure RunsCode (code : Bytes) (machine : Machine) : Prop where
  tape : machine.tape = .ofProgram code
  version : 1 ≤ machine.version

namespace RunsCode

theorem of_start {version : UInt64} (positive : version ≠ 0) (code : Bytes) (books : Books) :
    RunsCode code (start code version books) where
  tape := rfl
  version := by
    change 1 ≤ version
    rw [UInt64.le_iff_toNat_le]
    exact Nat.one_le_iff_ne_zero.mpr fun zero => positive (UInt64.toNat_inj.mp zero)

variable {context : Context} {nested : Run Halt} {machine : Machine} {code item other : Bytes}
  {stack below : List Bytes} {position : Nat}
  (runs : RunsCode code machine) (books : Books) (allowance : Option Nat)

section Fetch

variable {instruction : Instruction} {operation : Operation}
  (decoded : Instruction.decode code position = .ok instruction)
  (selected : instruction.opcode.operation? = some operation)
  (known : instruction.opcode.since = 1)
include runs decoded selected known

theorem fetch :
    (machine.arranged position stack books allowance).fetch = .ok (instruction, operation) := by
  refine fetch_eq_ok.mpr ⟨?_, selected, ?_⟩
  · change Instruction.decode machine.tape.program position = _
    rw [runs.tape, Tape.program_ofProgram, decoded]
  · rw [known]
    exact runs.version

/-- An instruction that finds too few items. -/
theorem lacks (lacking : stack.length < operation.operands) :
    Yields operation.cost (stepWith nested context)
      (machine.arranged position stack books allowance)
      (.error (.fault .dataStackUnderflow)) position stack :=
  .of_takes (.stepWith_lacking (runs.fetch books allowance decoded selected known) lacking)

variable {effect : List Bytes → StackEffect} {left : StackEffect}
  (executes : execute nested context instruction.data operation = affect effect)
  (effective : effect stack = left) (enough : operation.operands ≤ stack.length)
  (room : position + instruction.length < 0x100000000)
include executes effective enough room

/-- An instruction that only affects the data stack. -/
theorem affects {items : List Bytes} (delivers : left.outcome = .ok items) :
    Yields (operation.cost + left.gas) (stepWith nested context)
      (machine.arranged position stack books allowance) (.ok none)
      (position + instruction.length) left.result :=
  .of_takes (.stepWith_affect executes effective
    (runs.fetch books allowance decoded selected known) (allow_eq_ok enough room) delivers)

theorem affects_error {stop : Stop} (stops : left.outcome = .error stop) :
    Yields (operation.cost + left.gas) (stepWith nested context)
      (machine.arranged position stack books allowance) (.error stop) position left.result :=
  .of_takes (.stepWith_affect_error executes effective
    (runs.fetch books allowance decoded selected known) (allow_eq_ok enough room) stops)

end Fetch

include runs

theorem running (before : position < code.length) : position < machine.tape.length := by
  rw [runs.tape, Tape.length_eq, Tape.program_ofProgram]
  exact before

/-! ### Shared instructions -/

section Instructions

variable (room : position + 1 < 0x100000000)
include room

theorem duplicates (decoded : Instruction.decode code position = .ok ⟨0x76, 1, []⟩) :
    Yields (9 + item.length) (stepWith nested context)
      (machine.arranged position (item :: below) books allowance) (.ok none) (position + 1)
      (item :: item :: below) := by
  have step : Yields _ (stepWith nested context)
      (machine.arranged position (item :: below) books allowance) _ _ _ :=
    runs.affects books allowance decoded rfl rfl rfl
      (show _ = StackEffect.push (item :: below) [item] from rfl)
      (Nat.le_add_left 1 below.length) room rfl
  refine step.mono ?_
  change 1 + (0 + (8 + item.length + 0)) ≤ _
  omega

theorem swaps (decoded : Instruction.decode code position = .ok ⟨0x7c, 1, []⟩) :
    Yields 1 (stepWith nested context)
      (machine.arranged position (item :: other :: below) books allowance) (.ok none)
      (position + 1) (other :: item :: below) :=
  runs.affects books allowance decoded rfl rfl rfl
    (show _ = StackEffect.leave (other :: item :: below) from rfl)
    (Nat.le_add_left 2 below.length) room rfl

section Compare

variable (decoded : Instruction.decode code position = .ok ⟨0x88, 1, []⟩)
include decoded

theorem compares : Yields 1 (stepWith nested context)
    (machine.arranged position (item :: item :: below) books allowance) (.ok none)
    (position + 1) below := by
  have effective : Bitwise.effect .equalVerify (item :: item :: below) = .leave below := by
    simp [Bitwise.effect, StackEffect.demand]
  exact runs.affects books allowance decoded rfl rfl rfl effective
    (Nat.le_add_left 2 below.length) room rfl

theorem compares_error (differ : item ≠ other) : Yields 1 (stepWith nested context)
    (machine.arranged position (other :: item :: below) books allowance)
    (.error (.fault .verifyFailed)) position below := by
  have effective : Bitwise.effect .equalVerify (other :: item :: below) =
      .fail .verifyFailed below := by
    simp [Bitwise.effect, StackEffect.demand, differ]
  exact runs.affects_error books allowance decoded rfl rfl rfl effective
    (Nat.le_add_left 2 below.length) room rfl

end Compare

end Instructions

/-- An instruction that pushes an item of the program. -/
theorem quotes {instruction : Instruction}
    (decoded : Instruction.decode code position = .ok instruction)
    (selected : instruction.opcode.operation? = some .push)
    (known : instruction.opcode.since = 1)
    (room : position + instruction.length < 0x100000000) :
    Yields (9 + instruction.data.length) (stepWith nested context)
      (machine.arranged position stack books allowance) (.ok none)
      (position + instruction.length) (instruction.data :: stack) :=
  .of_takes (.stepWith_push (runs.fetch books allowance decoded selected known) room)

end RunsCode

end Machine

end EntryLedger
