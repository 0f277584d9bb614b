import EntryLedger.Bytes

/-!
# The BLAKE3 hash function

The input is cut into chunks of 1024 bytes, each chunk into blocks of 64
bytes.  The blocks of a chunk are compressed one after the other; chunks are
then joined pairwise into a binary tree whose left side is the largest full
power of two of chunks.  Only the plain 32-byte hash is provided.
-/

namespace EntryLedger.Blake3

/-- Eight words that chain one compression to the next. -/
abbrev Chaining := Vector UInt32 8

/-- Sixteen words, the size of a message block and of the working state. -/
abbrev Block := Vector UInt32 16

/-- The words every chunk starts from. -/
def initial : Chaining :=
  #v[0x6A09E667, 0xBB67AE85, 0x3C6EF372, 0xA54FF53A,
    0x510E527F, 0x9B05688C, 0x1F83D9AB, 0x5BE0CD19]

/-- Marks the first block of a chunk. -/
def chunkStart : UInt32 := 1

/-- Marks the last block of a chunk. -/
def chunkEnd : UInt32 := 2

/-- Marks an inner node of the tree. -/
def parent : UInt32 := 4

/-- Marks the last compression, whose words are the hash. -/
def root : UInt32 := 8

/-- Rotate a word to the right. -/
def rotate (word count : UInt32) : UInt32 :=
  (word >>> count) ||| (word <<< (32 - count))

/-- Mix two message words into four words of the state. -/
def mix (state : Block) (a b c d : Fin 16) (x y : UInt32) : Block :=
  let first := state[a] + state[b] + x
  let fourth := rotate (state[d] ^^^ first) 16
  let third := state[c] + fourth
  let second := rotate (state[b] ^^^ third) 12
  let first := first + second + y
  let fourth := rotate (fourth ^^^ first) 8
  let third := third + fourth
  let second := rotate (second ^^^ third) 7
  (((state.set a first).set b second).set c third).set d fourth

/-- One round: mix the four columns, then the four diagonals. -/
def round (state message : Block) : Block :=
  let state := mix state 0 4 8 12 message[0] message[1]
  let state := mix state 1 5 9 13 message[2] message[3]
  let state := mix state 2 6 10 14 message[4] message[5]
  let state := mix state 3 7 11 15 message[6] message[7]
  let state := mix state 0 5 10 15 message[8] message[9]
  let state := mix state 1 6 11 12 message[10] message[11]
  let state := mix state 2 7 8 13 message[12] message[13]
  mix state 3 4 9 14 message[14] message[15]

/-- The order in which the next round reads the words of a message. -/
def permute (message : Block) : Block :=
  #v[message[2], message[6], message[3], message[10],
    message[7], message[0], message[4], message[13],
    message[1], message[11], message[12], message[5],
    message[9], message[14], message[15], message[8]]

/-- Apply a number of rounds, permuting the message between them. -/
def rounds : Nat → Block → Block → Block
  | 0, state, _ => state
  | count + 1, state, message => rounds count (round state message) (permute message)

/-- Everything one compression depends on. -/
structure Node where
  chaining : Chaining
  block : Block
  counter : UInt64
  blockLength : UInt32
  flags : UInt32

/-- The first eight words that compressing a node leaves, which chain it to
the node above. -/
def Node.compress (node : Node) : Chaining :=
  let start : Block := #v[
    node.chaining[0], node.chaining[1], node.chaining[2], node.chaining[3],
    node.chaining[4], node.chaining[5], node.chaining[6], node.chaining[7],
    initial[0], initial[1], initial[2], initial[3],
    node.counter.toUInt32, (node.counter >>> 32).toUInt32,
    node.blockLength, node.flags]
  let final := rounds 7 start node.block
  #v[final[0] ^^^ final[8], final[1] ^^^ final[9],
    final[2] ^^^ final[10], final[3] ^^^ final[11],
    final[4] ^^^ final[12], final[5] ^^^ final[13],
    final[6] ^^^ final[14], final[7] ^^^ final[15]]

/-- The word at a position of a block that is padded with zero bytes. -/
def wordAt (bytes : Array UInt8) (index : Nat) : UInt32 :=
  let byteAt := fun offset => (bytes.getD (4 * index + offset) 0).toUInt32
  byteAt 0 ||| (byteAt 1 <<< 8) ||| (byteAt 2 <<< 16) ||| (byteAt 3 <<< 24)

/-- At most 64 bytes as the words of a block, padded with zeros. -/
def blockOf (bytes : Bytes) : Block :=
  let stored := bytes.toArray
  Vector.ofFn fun index => wordAt stored index.val

/-- The node of the last block of a chunk, after compressing all blocks
before it.  `flags` is the start mark while the first block is ahead. -/
def chunkFrom (counter : UInt64) (chaining : Chaining) (flags : UInt32)
    (bytes : Bytes) : Node :=
  if _ : 64 < bytes.length then
    let node : Node :=
      { chaining := chaining, block := blockOf (bytes.take 64), counter := counter,
        blockLength := 64, flags := flags }
    chunkFrom counter node.compress 0 (bytes.drop 64)
  else
    { chaining := chaining, block := blockOf bytes, counter := counter,
      blockLength := UInt32.ofNat bytes.length, flags := flags ||| chunkEnd }
termination_by bytes.length
decreasing_by
  rw [List.length_drop]
  omega

/-- The node of a chunk of at most 1024 bytes. -/
def chunk (counter : UInt64) (bytes : Bytes) : Node :=
  chunkFrom counter initial chunkStart bytes

/-- The node above two subtrees. -/
def join (left right : Chaining) : Node where
  chaining := initial
  block := left ++ right
  counter := 0
  blockLength := 64
  flags := parent

/-- The bytes that the left subtree takes: the largest power of two of full
chunks that leaves at least one byte for the right. -/
def leftLength (length : Nat) : Nat :=
  1024 <<< Nat.log2 ((length - 1) / 1024)

theorem leftLength_pos (length : Nat) : 0 < leftLength length := by
  have := Nat.two_pow_pos (Nat.log2 ((length - 1) / 1024))
  rw [leftLength, Nat.shiftLeft_eq]
  omega

theorem leftLength_lt {length : Nat} (long : 1024 < length) :
    leftLength length < length := by
  have chunks : (length - 1) / 1024 ≠ 0 := by omega
  have power := Nat.log2_self_le chunks
  have whole := Nat.mul_le_mul_left 1024 power
  rw [leftLength, Nat.shiftLeft_eq]
  omega

/-- The node of the subtree over some bytes, whose first chunk has the given
number. -/
def subtree (counter : Nat) (bytes : Bytes) : Node :=
  if long : 1024 < bytes.length then
    let left := leftLength bytes.length
    join (subtree counter (bytes.take left)).compress
      (subtree (counter + left / 1024) (bytes.drop left)).compress
  else
    chunk (UInt64.ofNat counter) bytes
termination_by bytes.length
decreasing_by
  · have bound := leftLength_lt long
    rw [List.length_take]
    omega
  · have bound := leftLength_lt long
    have positive := leftLength_pos bytes.length
    rw [List.length_drop]
    omega

/-- The bytes of eight words, each in little-endian order. -/
def wordBytes (words : Chaining) : Bytes :=
  words.toList.flatMap fun word => Bytes.littleEndian 4 word.toNat

theorem length_wordBytes (words : Chaining) : (wordBytes words).length = 32 := by
  simp [wordBytes, List.length_flatMap, List.map_const']

/-- The 32-byte hash of a byte string. -/
def hash (bytes : Bytes) : Bytes :=
  let top := subtree 0 bytes
  wordBytes { top with flags := top.flags ||| root }.compress

theorem length_hash (bytes : Bytes) : (hash bytes).length = 32 :=
  length_wordBytes _

end EntryLedger.Blake3
