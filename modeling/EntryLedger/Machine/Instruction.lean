import EntryLedger.Machine.Fault
import EntryLedger.Machine.Number
import EntryLedger.Machine.Opcode

/-!
# Instructions

An instruction is an opcode with the bytes that follow it: the item of a push
or the target of a jump.  Decoding reads one instruction at a position of a
program, and pushes are encoded in the shortest form.
-/

namespace EntryLedger

/-- A decoded instruction. -/
structure Instruction where
  opcode : Opcode
  /-- The encoded length, with the opcode. -/
  length : Nat
  /-- The item of a push, or the four bytes of a jump target. -/
  data : Bytes
  deriving DecidableEq

namespace Instruction

/-- The longest program and the longest item that can be pushed. -/
def maxLength : Nat :=
  0x7fffffff

/-- The next bytes of a program, which have to be there. -/
def immediate (bytes : Bytes) (length : Nat) : Except Fault Bytes :=
  let front := bytes.take length
  if front.length = length then .ok front else .error .shortProgram

/-- An instruction whose item is preceded by its length in `width` bytes. -/
def sizedPush (opcode : Opcode) (rest : Bytes) (width : Nat) :
    Except Fault Instruction := do
  let written ← immediate rest width
  let length := Bytes.ofLittleEndian written
  if maxLength < length then throw .longProgram
  let data ← immediate (rest.drop width) length
  return { opcode := opcode, length := 1 + width + length, data := data }

/-- An instruction whose item or target has a fixed length. -/
def fixedData (opcode : Opcode) (rest : Bytes) (length : Nat) :
    Except Fault Instruction := do
  let data ← immediate rest length
  return { opcode := opcode, length := 1 + length, data := data }

/-- The first instruction of a byte string. -/
def ofBytes : Bytes → Except Fault Instruction
  | [] => .error .shortProgram
  | opcode :: rest =>
      let number := opcode.toNat
      if 1 ≤ number ∧ number ≤ 75 then fixedData opcode rest number
      else if number = 0x4c then sizedPush opcode rest 1
      else if number = 0x4d then sizedPush opcode rest 2
      else if number = 0x4e then sizedPush opcode rest 4
      else if number = 0x63 ∨ number = 0x64 then fixedData opcode rest 4
      else if number = 0x4f then
        .ok { opcode := opcode, length := 1, data := Number.write (-1) }
      else if 0x51 ≤ number ∧ number ≤ 0x60 then
        .ok { opcode := opcode, length := 1, data := [opcode - 0x50] }
      else .ok { opcode := opcode, length := 1, data := [] }

def decode (program : Bytes) (position : Nat) : Except Fault Instruction :=
  ofBytes (program.drop position)

theorem length_pos {bytes : Bytes} {instruction : Instruction}
    (decoded : ofBytes bytes = .ok instruction) : 0 < instruction.length := by
  cases bytes with
  | nil => simp [ofBytes] at decoded
  | cons opcode rest =>
      simp only [ofBytes, fixedData, sizedPush, immediate, bind, Except.bind, pure,
        Except.pure, throw, throwThe, MonadExceptOf.throw] at decoded
      repeat' split at decoded
      all_goals first
        | (cases decoded; simp only; omega)
        | cases decoded

/-- Decode the instructions of a byte string one after the other. -/
def decodeFrom : Bytes → Except Fault (List Instruction)
  | [] => .ok []
  | opcode :: rest =>
      match _decoded : ofBytes (opcode :: rest) with
      | .error fault => .error fault
      | .ok instruction =>
          (decodeFrom ((opcode :: rest).drop instruction.length)).map (instruction :: ·)
termination_by bytes => bytes.length
decreasing_by
  have positive := length_pos _decoded
  simp only [List.length_drop, List.length_cons]
  omega

def decodeProgram (program : Bytes) : Except Fault (List Instruction) :=
  if maxLength < program.length then .error .longProgram else decodeFrom program

end Instruction

namespace Code

/-- The shortest encoding that pushes an item. -/
def push (item : Bytes) : Bytes :=
  let length := item.length
  match item with
  | [] => [0x00]
  | first :: rest =>
      if rest = [] ∧ 1 ≤ first ∧ first ≤ 16 then [0x50 + first]
      else if length ≤ 75 then UInt8.ofNat length :: item
      else if length ≤ 255 then 0x4c :: Bytes.littleEndian 1 length ++ item
      else if length ≤ 65535 then 0x4d :: Bytes.littleEndian 2 length ++ item
      else 0x4e :: Bytes.littleEndian 4 length ++ item

/-- The shortest encoding that pushes a number. -/
def pushNumber (number : Int) : Bytes :=
  if number = 0 then [0x00]
  else if number = -1 then [0x4f]
  else if 1 ≤ number ∧ number ≤ 16 then [UInt8.ofNat (0x50 + number.toNat)]
  else push (Number.write number)

/-- A jump to an absolute target. -/
def jump (opcode : Opcode) (target : UInt32) : Bytes :=
  opcode :: Bytes.littleEndian 4 target.toNat

/-- What is appended to a program that is being built. -/
inductive Part where
  /-- An opcode by itself. -/
  | operation (opcode : Opcode)
  | item (content : Bytes)
  | number (value : Int)
  | jump (opcode : Opcode) (target : UInt32)

def Part.code : Part → Bytes
  | .operation opcode => [opcode]
  | .item content => push content
  | .number value => pushNumber value
  | .jump opcode target => Code.jump opcode target

/-- The program that parts make up, one after the other. -/
def build (parts : List Part) : Bytes :=
  parts.flatMap Part.code

end Code

end EntryLedger
