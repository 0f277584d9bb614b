import EntryLedger.Digest
import EntryLedger.Digest.Sha512
import EntryLedger.Signature.Curve

/-!
# Ed25519 signatures

Verification recomputes the commitment point and compares its bytes with the
ones signed, without multiplying by the cofactor.  Keys are accepted in any
encoding that denotes a point; the second half of a signature has to be below
the order of the group.
-/

namespace EntryLedger

/-- Why a signature was refused. -/
inductive SignatureError where
  | invalidPublicKey
  | invalidSignature
  | verificationFailed
  deriving DecidableEq, Repr

def SignatureError.message : SignatureError → String
  | .invalidPublicKey => "invalid public key"
  | .invalidSignature => "invalid signature encoding"
  | .verificationFailed => "signature verification failed"

namespace Signature

/-- A hash of some bytes as a number modulo the group order. -/
def challenge (bytes : Bytes) : Nat :=
  Bytes.ofLittleEndian (Sha512.hash bytes) % Curve.order

/-- Check a signature over a message.  The key is examined first, then the
length of the signature, then the signature itself. -/
def check (key message signature : Bytes) : Except SignatureError Unit :=
  match if key.length = 32 then Curve.Point.decode? key else none with
  | none => .error .invalidPublicKey
  | some point =>
      if signature.length ≠ 64 then .error .invalidSignature
      else
        let commitment := signature.take 32
        let scalar := Bytes.ofLittleEndian (signature.drop 32)
        let factor := challenge (commitment ++ key ++ message)
        let expected :=
          (Curve.Point.base.scale scalar).add (point.neg.scale factor)
        if scalar < Curve.order ∧ expected.encode = commitment then .ok ()
        else .error .verificationFailed

/-- Whether a signature over a message is good under a key. -/
def verify (key message signature : Bytes) : Bool :=
  match check key message signature with
  | .ok () => true
  | .error _ => false

/-- The short text of a signature. -/
def brief (signature : Bytes) : String :=
  s!"Signature({Hex.encode (signature.take 8)}...)"

end Signature

/-- The two secrets that a signing key expands to. -/
structure SigningKey where
  scalar : Nat
  nonce : Bytes

namespace SigningKey

/-- Expand a secret of 32 bytes. -/
def ofSecret (secret : Bytes) : SigningKey :=
  let expanded := Sha512.hash secret
  let number := Bytes.ofLittleEndian (expanded.take 32)
  { scalar := 1 <<< 254 + number % (1 <<< 254) / 8 * 8, nonce := expanded.drop 32 }

/-- The signing key whose secret is the hash of a number. -/
def ofSeed (seed : UInt64) : SigningKey :=
  ofSecret (Digest.hash (Bytes.littleEndian 8 seed.toNat)).bytes

def publicKey (key : SigningKey) : Bytes :=
  (Curve.Point.base.scale key.scalar).encode

def sign (key : SigningKey) (message : Bytes) : Bytes :=
  let nonce := Signature.challenge (key.nonce ++ message)
  let commitment := (Curve.Point.base.scale nonce).encode
  let factor := Signature.challenge (commitment ++ key.publicKey ++ message)
  commitment ++ Bytes.littleEndian 32 ((nonce + factor * key.scalar) % Curve.order)

/-- The text of a signing key, which shows its public half only. -/
def brief (key : SigningKey) : String :=
  "Keypair \x7b public_key: PublicKey(" ++ Hex.encode (key.publicKey.take 8) ++ ") \x7d"

end SigningKey

end EntryLedger
