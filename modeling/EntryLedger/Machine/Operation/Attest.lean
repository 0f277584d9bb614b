import EntryLedger.Gas
import EntryLedger.Machine.Number
import EntryLedger.Machine.Opcode
import EntryLedger.Machine.StackEffect

/-!
# Hashes and signature checks

A hash costs gas for every byte that it reads.  A signature check comes out
false only when every signature is empty: a signature that is not empty and
not good makes the program fail.
-/

namespace EntryLedger.Attest

/-- The length of a signed message. -/
def messageLength : Nat :=
  32

/-- The gas for each key of a check of several signatures. -/
def keyCost : Nat :=
  1024

/-- Push whether the signatures are good, unless one that is not empty makes
the program fail. -/
def judge (good : Bool) (signatures below : List Bytes) : StackEffect :=
  if good = false ∧ signatures.any (fun signature => !signature.isEmpty) then
    .fail .verifyFailed below
  else .push below [Number.ofTruth good]

/-- Whether every signature is good under a key of its own, with the keys in
the order of the signatures.  Each signature takes the first key that fits. -/
def allMatch (verify : Bytes → Bytes → Bool) : List Bytes → List Bytes → Bool
  | _, [] => true
  | keys, signature :: signatures =>
      !signature.isEmpty &&
        match keys.dropWhile fun key => !verify key signature with
        | [] => false
        | _ :: later => allMatch verify later signatures

/-- What a check of several signatures does to the stack. -/
def multisignature (verify : SignatureVerifier) (stack : List Bytes) : StackEffect :=
  match stack with
  | keyCount :: signatureCount :: below =>
      match Number.read keyCount, Number.read signatureCount with
      | some keyNumber, some signatureNumber =>
          if keyNumber ≤ 0 ∨ signatureNumber ≤ 0 ∨ keyNumber < signatureNumber then
            .fail .badValue stack
          else
            let keyTotal := keyNumber.toNat
            let signatureTotal := signatureNumber.toNat
            if below.length < keyTotal + signatureTotal + 1 then
              .fail .dataStackUnderflow stack
            else
              match below.drop keyTotal with
              | [] => .missing stack
              | message :: rest =>
                  if message.length ≠ messageLength then .fail .badValue stack
                  else if maxWord < keyCost * keyTotal then .fail .rangeError stack
                  else
                    let keys := (below.take keyTotal).reverse
                    let signatures := (rest.take signatureTotal).reverse
                    let good := allMatch (fun key signature => verify key message signature)
                      keys signatures
                    .after (keyCost * keyTotal)
                      (judge good signatures (rest.drop signatureTotal))
      | _, _ => .fail .badValue stack
  | _ => .missing stack

/-- What a hash or a signature check does to the stack. -/
def effect (verify : SignatureVerifier) : Attest → List Bytes → StackEffect
  | .blake3, item :: below =>
      .after item.length (.push below [(Digest.hash item).bytes])
  | .hash160, item :: below => .after item.length (.push below [EntryLedger.hash160 item])
  | .checkSignature, key :: message :: signature :: below =>
      if message.length ≠ messageLength then
        .fail .badValue (key :: message :: signature :: below)
      else judge (verify key message signature) [signature] below
  | .checkMultisignature, stack => multisignature verify stack
  | _, stack => .missing stack

end EntryLedger.Attest
