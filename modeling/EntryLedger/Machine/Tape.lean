import EntryLedger.Machine.Instruction

/-!
# Program tapes

A machine jumps about in its program.  A tape keeps, beside the program, what
follows each of its positions, so that reading at a position takes no time and
still is nothing but dropping the bytes before it.
-/

namespace EntryLedger

namespace Bytes

/-- Append to some byte strings what follows each position of another. -/
def suffixesOnto (found : Array Bytes) : Bytes → Array Bytes
  | [] => found
  | byte :: rest => suffixesOnto (found.push (byte :: rest)) rest

/-- What follows each position of a byte string. -/
def suffixes (bytes : Bytes) : Array Bytes :=
  suffixesOnto #[] bytes

theorem size_suffixesOnto (found : Array Bytes) (bytes : Bytes) :
    (suffixesOnto found bytes).size = found.size + bytes.length := by
  induction bytes generalizing found with
  | nil => rfl
  | cons byte rest ih =>
      simp only [suffixesOnto, ih, Array.size_push, List.length_cons]
      omega

theorem getElem?_suffixesOnto_of_lt {found : Array Bytes} {position : Nat}
    (early : position < found.size) (bytes : Bytes) :
    (suffixesOnto found bytes)[position]? = found[position]? := by
  induction bytes generalizing found with
  | nil => rfl
  | cons byte rest ih =>
      have wider : position < (found.push (byte :: rest)).size := by
        rw [Array.size_push]
        omega
      rw [suffixesOnto, ih wider, Array.getElem?_push_lt early,
        Array.getElem?_eq_getElem early]

theorem getD_suffixesOnto (found : Array Bytes) (bytes : Bytes) (offset : Nat) :
    (suffixesOnto found bytes)[found.size + offset]?.getD [] = bytes.drop offset := by
  induction bytes generalizing found offset with
  | nil => simp [suffixesOnto]
  | cons byte rest ih =>
      cases offset with
      | zero =>
          have present : found.size < (found.push (byte :: rest)).size := by simp
          rw [Nat.add_zero, suffixesOnto, getElem?_suffixesOnto_of_lt present]
          simp
      | succ offset =>
          have shifted := ih (found.push (byte :: rest)) offset
          rw [Array.size_push, Nat.add_right_comm] at shifted
          simpa [suffixesOnto, Nat.add_assoc] using shifted

end Bytes

/-- A program that can be read from each of its positions. -/
structure Tape where
  program : Bytes
  /-- What follows each position. -/
  suffixes : Array Bytes
  suffixes_eq : suffixes = program.suffixes

namespace Tape

def ofProgram (program : Bytes) : Tape where
  program := program
  suffixes := program.suffixes
  suffixes_eq := rfl

def length (tape : Tape) : Nat :=
  tape.suffixes.size

def suffix (tape : Tape) (position : Nat) : Bytes :=
  tape.suffixes[position]?.getD []

def decode (tape : Tape) (position : Nat) : Except Fault Instruction :=
  Instruction.ofBytes (tape.suffix position)

@[simp]
theorem program_ofProgram (program : Bytes) : (ofProgram program).program = program :=
  rfl

@[simp]
theorem length_eq (tape : Tape) : tape.length = tape.program.length := by
  simp [length, tape.suffixes_eq, Bytes.suffixes, Bytes.size_suffixesOnto]

@[simp]
theorem suffix_eq (tape : Tape) (position : Nat) :
    tape.suffix position = tape.program.drop position := by
  have read := Bytes.getD_suffixesOnto #[] tape.program position
  simpa [suffix, tape.suffixes_eq, Bytes.suffixes] using read

/-- Decoding from a tape is decoding from its program. -/
@[simp]
theorem decode_eq (tape : Tape) (position : Nat) :
    tape.decode position = Instruction.decode tape.program position := by
  simp [decode, Instruction.decode]

end Tape

end EntryLedger
