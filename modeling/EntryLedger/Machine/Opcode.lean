import EntryLedger.Bytes.Hex

/-!
# Operations and their opcodes

An operation is what an instruction does; an opcode is the byte that selects
it.  The cost of an operation and the number of items that it needs belong to
the operation, while names and versions belong to the opcode.
-/

namespace EntryLedger

/-- Moves and copies of stack items. -/
inductive Shuffle where
  | drop2 | dup2 | dup3 | over2 | rot2 | swap2 | ifDup | depth | drop | dup
  | nip | over | pick | roll | rot | swap | tuck
  deriving DecidableEq

/-- Operations on byte strings as texts. -/
inductive Splice where
  | concat | substring | left | right | size | concatPush
  deriving DecidableEq

/-- Operations on byte strings byte by byte. -/
inductive Bitwise where
  | invert | and | or | xor | equal | equalVerify
  deriving DecidableEq

/-- Functions of one number. -/
inductive Unary where
  | increment | decrement | double | halve | negate | abs
  deriving DecidableEq

/-- Functions of two numbers. -/
inductive Binary where
  | add | sub | mul | div | mod | shiftLeft | shiftRight
  | smaller | larger
  deriving DecidableEq

/-- Relations between two numbers. -/
inductive Relation where
  | and | or | equal | notEqual | less | greater | lessOrEqual | greaterOrEqual
  deriving DecidableEq

/-- Operations on numbers. -/
inductive Numeric where
  | unary (operation : Unary)
  | isZero
  | isNonzero
  | binary (operation : Binary)
  | relation (operation : Relation)
  | equalVerify
  | within
  deriving DecidableEq

/-- Hashes and signature checks. -/
inductive Attest where
  | blake3 | hash160 | checkSignature | checkMultisignature
  deriving DecidableEq

/-- Operations that read the context of the run. -/
inductive Observe where
  | signatureHash | checkOutput | asset | amount | program | position
  | entryId | outputId | blockHeight | blockTime
  deriving DecidableEq

/-- What an instruction does. -/
inductive Operation where
  | push
  | nop
  | jump
  | jumpIf
  | verify
  | fail
  | checkPredicate
  | toAlt
  | fromAlt
  | shuffle (operation : Shuffle)
  | splice (operation : Splice)
  | bitwise (operation : Bitwise)
  | numeric (operation : Numeric)
  | attest (operation : Attest)
  | observe (operation : Observe)
  deriving DecidableEq

namespace Operation

/-- The gas that starting an operation costs. -/
def cost : Operation → Nat
  | checkPredicate => 256
  | shuffle .pick | shuffle .roll => 2
  | splice .size => 1
  | splice _ => 4
  | numeric (.binary .mul) | numeric (.binary .div) | numeric (.binary .mod)
  | numeric (.binary .shiftLeft) | numeric (.binary .shiftRight) => 8
  | numeric _ => 2
  | attest .blake3 | attest .hash160 => 64
  | attest .checkSignature => 1024
  | observe .signatureHash => 256
  | observe .checkOutput => 16
  | _ => 1

/-- The number of items that the data stack has to hold before an operation
starts. -/
def operands : Operation → Nat
  | push | nop | jump | fail | fromAlt => 0
  | jumpIf | verify | toAlt => 1
  | checkPredicate => 3
  | shuffle .depth => 0
  | shuffle .ifDup | shuffle .drop | shuffle .dup | shuffle .pick | shuffle .roll => 1
  | shuffle .drop2 | shuffle .dup2 | shuffle .nip | shuffle .over | shuffle .swap
  | shuffle .tuck => 2
  | shuffle .dup3 | shuffle .rot => 3
  | shuffle .over2 | shuffle .swap2 => 4
  | shuffle .rot2 => 6
  | splice .size => 1
  | splice .substring => 3
  | splice _ => 2
  | bitwise .invert => 1
  | bitwise _ => 2
  | numeric (.unary _) | numeric .isZero | numeric .isNonzero => 1
  | numeric .within => 3
  | numeric _ => 2
  | attest .blake3 | attest .hash160 => 1
  | attest .checkSignature => 3
  | attest .checkMultisignature => 2
  | observe .checkOutput => 5
  | observe _ => 0

/-- Every operation costs gas. -/
theorem cost_pos (operation : Operation) : 0 < operation.cost := by
  unfold cost
  split <;> decide

end Operation

abbrev Opcode := UInt8

namespace Opcode

/-- The operation that an opcode selects, if it selects one. -/
def operation? (opcode : Opcode) : Option Operation :=
  match opcode.toNat with
  | 0x50 => none
  | 0x61 => some .nop
  | 0x63 => some .jump
  | 0x64 => some .jumpIf
  | 0x69 => some .verify
  | 0x6a => some .fail
  | 0x6b => some .toAlt
  | 0x6c => some .fromAlt
  | 0x6d => some (.shuffle .drop2)
  | 0x6e => some (.shuffle .dup2)
  | 0x6f => some (.shuffle .dup3)
  | 0x70 => some (.shuffle .over2)
  | 0x71 => some (.shuffle .rot2)
  | 0x72 => some (.shuffle .swap2)
  | 0x73 => some (.shuffle .ifDup)
  | 0x74 => some (.shuffle .depth)
  | 0x75 => some (.shuffle .drop)
  | 0x76 => some (.shuffle .dup)
  | 0x77 => some (.shuffle .nip)
  | 0x78 => some (.shuffle .over)
  | 0x79 => some (.shuffle .pick)
  | 0x7a => some (.shuffle .roll)
  | 0x7b => some (.shuffle .rot)
  | 0x7c => some (.shuffle .swap)
  | 0x7d => some (.shuffle .tuck)
  | 0x7e => some (.splice .concat)
  | 0x7f => some (.splice .substring)
  | 0x80 => some (.splice .left)
  | 0x81 => some (.splice .right)
  | 0x82 => some (.splice .size)
  | 0x83 => some (.bitwise .invert)
  | 0x84 => some (.bitwise .and)
  | 0x85 => some (.bitwise .or)
  | 0x86 => some (.bitwise .xor)
  | 0x87 => some (.bitwise .equal)
  | 0x88 => some (.bitwise .equalVerify)
  | 0x89 => some (.splice .concatPush)
  | 0x8b => some (.numeric (.unary .increment))
  | 0x8c => some (.numeric (.unary .decrement))
  | 0x8d => some (.numeric (.unary .double))
  | 0x8e => some (.numeric (.unary .halve))
  | 0x8f => some (.numeric (.unary .negate))
  | 0x90 => some (.numeric (.unary .abs))
  | 0x91 => some (.numeric .isZero)
  | 0x92 => some (.numeric .isNonzero)
  | 0x93 => some (.numeric (.binary .add))
  | 0x94 => some (.numeric (.binary .sub))
  | 0x95 => some (.numeric (.binary .mul))
  | 0x96 => some (.numeric (.binary .div))
  | 0x97 => some (.numeric (.binary .mod))
  | 0x98 => some (.numeric (.binary .shiftLeft))
  | 0x99 => some (.numeric (.binary .shiftRight))
  | 0x9a => some (.numeric (.relation .and))
  | 0x9b => some (.numeric (.relation .or))
  | 0x9c => some (.numeric (.relation .equal))
  | 0x9d => some (.numeric .equalVerify)
  | 0x9e => some (.numeric (.relation .notEqual))
  | 0x9f => some (.numeric (.relation .less))
  | 0xa0 => some (.numeric (.relation .greater))
  | 0xa1 => some (.numeric (.relation .lessOrEqual))
  | 0xa2 => some (.numeric (.relation .greaterOrEqual))
  | 0xa3 => some (.numeric (.binary .smaller))
  | 0xa4 => some (.numeric (.binary .larger))
  | 0xa5 => some (.numeric .within)
  | 0xaa => some (.attest .blake3)
  | 0xab => some (.attest .hash160)
  | 0xac => some (.attest .checkSignature)
  | 0xad => some (.attest .checkMultisignature)
  | 0xae => some (.observe .signatureHash)
  | 0xc0 => some .checkPredicate
  | 0xc1 => some (.observe .checkOutput)
  | 0xc2 => some (.observe .asset)
  | 0xc3 => some (.observe .amount)
  | 0xc4 => some (.observe .program)
  | 0xc9 => some (.observe .position)
  | 0xca => some (.observe .entryId)
  | 0xcb => some (.observe .outputId)
  | 0xcd => some (.observe .blockHeight)
  | 0xce => some (.observe .blockTime)
  | number => if number ≤ 0x60 then some .push else none

/-- The name of an opcode, which is empty for a byte that selects no
operation. -/
def name (opcode : Opcode) : String :=
  match opcode.toNat with
  | 0x00 => "0"
  | 0x4c => "PUSHDATA1"
  | 0x4d => "PUSHDATA2"
  | 0x4e => "PUSHDATA4"
  | 0x4f => "1NEGATE"
  | 0x61 => "NOP"
  | 0x63 => "JUMP"
  | 0x64 => "JUMPIF"
  | 0x69 => "VERIFY"
  | 0x6a => "FAIL"
  | 0x6b => "TOALTSTACK"
  | 0x6c => "FROMALTSTACK"
  | 0x6d => "2DROP"
  | 0x6e => "2DUP"
  | 0x6f => "3DUP"
  | 0x70 => "2OVER"
  | 0x71 => "2ROT"
  | 0x72 => "2SWAP"
  | 0x73 => "IFDUP"
  | 0x74 => "DEPTH"
  | 0x75 => "DROP"
  | 0x76 => "DUP"
  | 0x77 => "NIP"
  | 0x78 => "OVER"
  | 0x79 => "PICK"
  | 0x7a => "ROLL"
  | 0x7b => "ROT"
  | 0x7c => "SWAP"
  | 0x7d => "TUCK"
  | 0x7e => "CAT"
  | 0x7f => "SUBSTR"
  | 0x80 => "LEFT"
  | 0x81 => "RIGHT"
  | 0x82 => "SIZE"
  | 0x83 => "INVERT"
  | 0x84 => "AND"
  | 0x85 => "OR"
  | 0x86 => "XOR"
  | 0x87 => "EQUAL"
  | 0x88 => "EQUALVERIFY"
  | 0x89 => "CATPUSHDATA"
  | 0x8b => "1ADD"
  | 0x8c => "1SUB"
  | 0x8d => "2MUL"
  | 0x8e => "2DIV"
  | 0x8f => "NEGATE"
  | 0x90 => "ABS"
  | 0x91 => "NOT"
  | 0x92 => "0NOTEQUAL"
  | 0x93 => "ADD"
  | 0x94 => "SUB"
  | 0x95 => "MUL"
  | 0x96 => "DIV"
  | 0x97 => "MOD"
  | 0x98 => "LSHIFT"
  | 0x99 => "RSHIFT"
  | 0x9a => "BOOLAND"
  | 0x9b => "BOOLOR"
  | 0x9c => "NUMEQUAL"
  | 0x9d => "NUMEQUALVERIFY"
  | 0x9e => "NUMNOTEQUAL"
  | 0x9f => "LESSTHAN"
  | 0xa0 => "GREATERTHAN"
  | 0xa1 => "LESSTHANOREQUAL"
  | 0xa2 => "GREATERTHANOREQUAL"
  | 0xa3 => "MIN"
  | 0xa4 => "MAX"
  | 0xa5 => "WITHIN"
  | 0xaa => "BLAKE3"
  | 0xab => "HASH160"
  | 0xac => "CHECKSIG"
  | 0xad => "CHECKMULTISIG"
  | 0xae => "TXSIGHASH"
  | 0xc0 => "CHECKPREDICATE"
  | 0xc1 => "CHECKOUTPUT"
  | 0xc2 => "ASSET"
  | 0xc3 => "AMOUNT"
  | 0xc4 => "PROGRAM"
  | 0xc9 => "INDEX"
  | 0xca => "ENTRYID"
  | 0xcb => "OUTPUTID"
  | 0xcd => "BLOCKHEIGHT"
  | 0xce => "BLOCKTIME"
  | number =>
      if number ≤ 0x4b then "DATA"
      else if 0x51 ≤ number ∧ number ≤ 0x60 then toString (number - 0x50)
      else ""

/-- The first machine version that knows an opcode. -/
def since (opcode : Opcode) : UInt64 :=
  match opcode.operation? with
  | some (.observe .blockHeight) | some (.observe .blockTime) => 2
  | _ => 1

def isDefined (opcode : Opcode) : Bool :=
  opcode.operation?.isSome

/-- Whether an opcode pushes an item that the program itself supplies. -/
def isPush (opcode : Opcode) : Bool :=
  decide (opcode ≤ 0x60 ∧ opcode ≠ 0x50)

/-- The gas that starting an opcode costs; nothing if it is not defined. -/
def cost (opcode : Opcode) : Nat :=
  opcode.operation?.elim 0 Operation.cost

/-- The items that an opcode needs; none if it is not defined. -/
def operands (opcode : Opcode) : Nat :=
  opcode.operation?.elim 0 Operation.operands

/-- The name of an opcode together with its byte. -/
def brief (opcode : Opcode) : String :=
  opcode.name ++ "(0x" ++ Hex.encode [opcode] ++ ")"

/-- A name in capitals without one leading `OP_`. -/
def bareName (name : String) : String :=
  match name.toList.map Char.toUpper with
  | 'O' :: 'P' :: '_' :: rest => String.ofList rest
  | upper => String.ofList upper

/-- The opcode, other than a push, that a name in any case denotes. -/
def ofName? (name : String) : Option Opcode :=
  let bare := bareName name
  ((List.range 256).map UInt8.ofNat).find? fun opcode =>
    opcode.isDefined && !opcode.isPush && opcode.name == bare

end Opcode

end EntryLedger
