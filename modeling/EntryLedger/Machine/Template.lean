import EntryLedger.Digest
import EntryLedger.Machine.Instruction

/-!
# Witness templates

Two short programs stand for longer ones.  A key template holds the short
hash of a public key and is satisfied by a signature and that key.  A script
template holds the hash of a program and is satisfied by that program and its
own arguments.
-/

namespace EntryLedger.Template

/-- The program of a key template. -/
def payToKey (keyHash : Bytes) : Bytes :=
  0x00 :: 0x14 :: keyHash

/-- The program of a script template. -/
def payToScript (scriptHash : Bytes) : Bytes :=
  0x00 :: 0x20 :: scriptHash

/-- Whether a program is a key template. -/
def isPayToKey (code : Bytes) : Bool :=
  code.length == 22 && code.take 2 == [0x00, 0x14]

/-- Whether a program is a script template. -/
def isPayToScript (code : Bytes) : Bool :=
  code.length == 34 && code.take 2 == [0x00, 0x20]

/-- Whether a program is a template of either kind. -/
def isTemplate (code : Bytes) : Bool :=
  isPayToKey code || isPayToScript code

/-- The program that a template stands for: duplicate the last argument,
compare its hash, and then check the signature or run the script. -/
def expand? (code : Bytes) : Option Bytes :=
  if isPayToKey code then
    some ([0x76, 0xab] ++ Code.push (code.drop 2) ++ [0x88, 0xae, 0x7c, 0xac])
  else if isPayToScript code then
    some ([0x76, 0xaa] ++ Code.push (code.drop 2) ++
      ([0x88] ++ Code.pushNumber (-1) ++ [0x7c] ++ Code.pushNumber 0 ++ [0xc0]))
  else none

end EntryLedger.Template
