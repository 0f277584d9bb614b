import EntryLedger.Bytes

/-!
# The SHA-512 hash function

The message is padded to whole blocks of 128 bytes.  Each block supplies
sixteen words, which a sliding window extends to the eighty words of the
rounds.
-/

namespace EntryLedger.Sha512

/-- The eight working words. -/
structure State where
  a : UInt64
  b : UInt64
  c : UInt64
  d : UInt64
  e : UInt64
  f : UInt64
  g : UInt64
  h : UInt64

/-- The words that hashing starts from. -/
def initial : State where
  a := 0x6a09e667f3bcc908
  b := 0xbb67ae8584caa73b
  c := 0x3c6ef372fe94f82b
  d := 0xa54ff53a5f1d36f1
  e := 0x510e527fade682d1
  f := 0x9b05688c2b3e6c1f
  g := 0x1f83d9abfb41bd6b
  h := 0x5be0cd19137e2179

/-- The constant of each round. -/
def constants : List UInt64 := [
  0x428a2f98d728ae22, 0x7137449123ef65cd, 0xb5c0fbcfec4d3b2f, 0xe9b5dba58189dbbc,
  0x3956c25bf348b538, 0x59f111f1b605d019, 0x923f82a4af194f9b, 0xab1c5ed5da6d8118,
  0xd807aa98a3030242, 0x12835b0145706fbe, 0x243185be4ee4b28c, 0x550c7dc3d5ffb4e2,
  0x72be5d74f27b896f, 0x80deb1fe3b1696b1, 0x9bdc06a725c71235, 0xc19bf174cf692694,
  0xe49b69c19ef14ad2, 0xefbe4786384f25e3, 0x0fc19dc68b8cd5b5, 0x240ca1cc77ac9c65,
  0x2de92c6f592b0275, 0x4a7484aa6ea6e483, 0x5cb0a9dcbd41fbd4, 0x76f988da831153b5,
  0x983e5152ee66dfab, 0xa831c66d2db43210, 0xb00327c898fb213f, 0xbf597fc7beef0ee4,
  0xc6e00bf33da88fc2, 0xd5a79147930aa725, 0x06ca6351e003826f, 0x142929670a0e6e70,
  0x27b70a8546d22ffc, 0x2e1b21385c26c926, 0x4d2c6dfc5ac42aed, 0x53380d139d95b3df,
  0x650a73548baf63de, 0x766a0abb3c77b2a8, 0x81c2c92e47edaee6, 0x92722c851482353b,
  0xa2bfe8a14cf10364, 0xa81a664bbc423001, 0xc24b8b70d0f89791, 0xc76c51a30654be30,
  0xd192e819d6ef5218, 0xd69906245565a910, 0xf40e35855771202a, 0x106aa07032bbd1b8,
  0x19a4c116b8d2d0c8, 0x1e376c085141ab53, 0x2748774cdf8eeb99, 0x34b0bcb5e19b48a8,
  0x391c0cb3c5c95a63, 0x4ed8aa4ae3418acb, 0x5b9cca4f7763e373, 0x682e6ff3d6b2b8a3,
  0x748f82ee5defb2fc, 0x78a5636f43172f60, 0x84c87814a1f0ab72, 0x8cc702081a6439ec,
  0x90befffa23631e28, 0xa4506cebde82bde9, 0xbef9a3f7b2c67915, 0xc67178f2e372532b,
  0xca273eceea26619c, 0xd186b8c721c0c207, 0xeada7dd6cde0eb1e, 0xf57d4f7fee6ed178,
  0x06f067aa72176fba, 0x0a637dc5a2c898a6, 0x113f9804bef90dae, 0x1b710b35131c471b,
  0x28db77f523047d84, 0x32caab7b40c72493, 0x3c9ebe0a15c9bebc, 0x431d67c49c100d4c,
  0x4cc5d4becb3e42b6, 0x597f299cfc657e2a, 0x5fcb6fab3ad6faec, 0x6c44198c4a475817]

/-- Rotate a word to the right. -/
def rotate (word count : UInt64) : UInt64 :=
  (word >>> count) ||| (word <<< (64 - count))

/-- One round with a message word and a round constant. -/
def State.round (state : State) (word constant : UInt64) : State :=
  let upper := rotate state.e 14 ^^^ rotate state.e 18 ^^^ rotate state.e 41
  let choice := (state.e &&& state.f) ^^^ (~~~state.e &&& state.g)
  let first := state.h + upper + choice + constant + word
  let lower := rotate state.a 28 ^^^ rotate state.a 34 ^^^ rotate state.a 39
  let majority := (state.a &&& state.b) ^^^ (state.a &&& state.c) ^^^ (state.b &&& state.c)
  { a := first + (lower + majority), b := state.a, c := state.b, d := state.c,
    e := state.d + first, f := state.e, g := state.f, h := state.g }

/-- Add two states word by word. -/
def State.add (left right : State) : State where
  a := left.a + right.a
  b := left.b + right.b
  c := left.c + right.c
  d := left.d + right.d
  e := left.e + right.e
  f := left.f + right.f
  g := left.g + right.g
  h := left.h + right.h

/-- The sixteen words that the rounds read next. -/
structure Window where
  word0 : UInt64
  word1 : UInt64
  word2 : UInt64
  word3 : UInt64
  word4 : UInt64
  word5 : UInt64
  word6 : UInt64
  word7 : UInt64
  word8 : UInt64
  word9 : UInt64
  word10 : UInt64
  word11 : UInt64
  word12 : UInt64
  word13 : UInt64
  word14 : UInt64
  word15 : UInt64

/-- Drop the first word of a window and append the word that follows it. -/
def Window.slide (window : Window) : Window :=
  let early := rotate window.word1 1 ^^^ rotate window.word1 8 ^^^ (window.word1 >>> 7)
  let late := rotate window.word14 19 ^^^ rotate window.word14 61 ^^^ (window.word14 >>> 6)
  { word0 := window.word1, word1 := window.word2, word2 := window.word3
    word3 := window.word4, word4 := window.word5, word5 := window.word6
    word6 := window.word7, word7 := window.word8, word8 := window.word9
    word9 := window.word10, word10 := window.word11, word11 := window.word12
    word12 := window.word13, word13 := window.word14, word14 := window.word15
    word15 := late + window.word9 + early + window.word0 }

/-- Run one round for each of the given constants. -/
def rounds : List UInt64 → State → Window → State
  | [], state, _ => state
  | constant :: rest, state, window =>
      rounds rest (state.round window.word0 constant) window.slide

/-- The word that eight bytes at a position write, the most significant
first. -/
def wordAt (bytes : Bytes) (position : Nat) : UInt64 :=
  ((bytes.drop position).take 8).foldl (fun word byte => (word <<< 8) ||| byte.toUInt64) 0

/-- The words of a block of 128 bytes. -/
def windowOf (block : Bytes) : Window where
  word0 := wordAt block 0
  word1 := wordAt block 8
  word2 := wordAt block 16
  word3 := wordAt block 24
  word4 := wordAt block 32
  word5 := wordAt block 40
  word6 := wordAt block 48
  word7 := wordAt block 56
  word8 := wordAt block 64
  word9 := wordAt block 72
  word10 := wordAt block 80
  word11 := wordAt block 88
  word12 := wordAt block 96
  word13 := wordAt block 104
  word14 := wordAt block 112
  word15 := wordAt block 120

/-- A message with its padding and its length in bits. -/
def pad (message : Bytes) : Bytes :=
  let zeros := (239 - message.length % 128) % 128
  message ++ 0x80 :: List.replicate zeros 0 ++
    (Bytes.littleEndian 16 (8 * message.length)).reverse

/-- Absorb the whole blocks of a padded message. -/
def absorb (state : State) (bytes : Bytes) : State :=
  let block := bytes.take 128
  if _ : block.length = 128 then
    absorb (state.add (rounds constants state (windowOf block))) (bytes.drop 128)
  else state
termination_by bytes.length
decreasing_by
  rename_i whole
  rw [List.length_take] at whole
  rw [List.length_drop]
  omega

/-- The 64-byte hash of a message. -/
def hash (message : Bytes) : Bytes :=
  let final := absorb initial (pad message)
  [final.a, final.b, final.c, final.d, final.e, final.f, final.g, final.h].flatMap
    fun word => (Bytes.littleEndian 8 word.toNat).reverse

end EntryLedger.Sha512
