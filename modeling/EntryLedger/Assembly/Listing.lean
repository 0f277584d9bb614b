import EntryLedger.Machine.Instruction

/-!
# Listing programs

A listing has one line for each instruction, in the language of program text.
A push is listed by its item, so a listing assembles to the shortest pushes of
the same items.
-/

namespace EntryLedger

/-- Why a program has no listing. -/
inductive ListingError where
  | truncated (offset : Nat) (fault : Fault)
  | undefinedOpcode (opcode : Opcode) (offset : Nat)
  deriving DecidableEq

def ListingError.message : ListingError → String
  | .truncated offset fault =>
      s!"truncated instruction at offset {offset}: " ++ fault.message
  | .undefinedOpcode opcode offset =>
      "undefined opcode 0x" ++ Hex.encode [opcode] ++ s!" at offset {offset}"

/-- The line of an instruction, unless its opcode is not defined. -/
def Instruction.line? (instruction : Instruction) : Option String :=
  let opcode := instruction.opcode
  let number := opcode.toNat
  if number = 0x00 then some "0"
  else if number = 0x4f then some "-1"
  else if 0x51 ≤ number ∧ number ≤ 0x60 then some (toString (number - 0x50))
  else if number = 0x63 ∨ number = 0x64 then
    some (opcode.name ++ ":" ++ toString (Bytes.ofLittleEndian instruction.data))
  else if opcode.isPush then some ("0x" ++ Hex.encode instruction.data)
  else if opcode.isDefined then some opcode.name
  else none

namespace Listing

/-- The lines of the instructions from an offset on. -/
def linesFrom (offset : Nat) : Bytes → Except ListingError (List String)
  | [] => .ok []
  | opcode :: rest =>
      match _decoded : Instruction.ofBytes (opcode :: rest) with
      | .error fault => .error (.truncated offset fault)
      | .ok instruction =>
          match instruction.line? with
          | none => .error (.undefinedOpcode instruction.opcode offset)
          | some line =>
              (linesFrom (offset + instruction.length)
                ((opcode :: rest).drop instruction.length)).map (line :: ·)
termination_by bytes => bytes.length
decreasing_by
  have positive := Instruction.length_pos _decoded
  simp only [List.length_drop, List.length_cons]
  omega

end Listing

def disassemble (program : Bytes) : Except ListingError String :=
  (Listing.linesFrom 0 program).map (String.intercalate "\n")

end EntryLedger
