/-
  The BLAKE3 hash of a sequence of bytes, in its plain mode with 32 bytes of output.

  The input is cut into chunks of 1024 bytes, each hashed block by block into a chaining value; the
  chunks are the leaves of a binary tree whose left subtrees are complete (`leftLength`), and a
  parent hashes the chaining values of its children (`nodeOf`).  The last compression, at the root,
  is marked as such and gives the digest.
-/

namespace Retouch.Blake3

/-! ## Compression -/

/-- A chaining value. -/
abbrev Chain := Vector UInt32 8

/-- A block of sixteen words, and also the state of the compression. -/
abbrev Block := Vector UInt32 16

/-- The initial chaining value. -/
def start : Chain :=
  #v[0x6A09E667, 0xBB67AE85, 0x3C6EF372, 0xA54FF53A, 0x510E527F, 0x9B05688C, 0x1F83D9AB, 0x5BE0CD19]

/-- Rotation to the right. -/
def rotate (x n : UInt32) : UInt32 := (x >>> n) ||| (x <<< (32 - n))

/-- Mixes two message words into four words of the state. -/
def mix (v : Block) (a b c d : Fin 16) (x y : UInt32) : Block :=
  let v := v.set a (v[a] + v[b] + x)
  let v := v.set d (rotate (v[d] ^^^ v[a]) 16)
  let v := v.set c (v[c] + v[d])
  let v := v.set b (rotate (v[b] ^^^ v[c]) 12)
  let v := v.set a (v[a] + v[b] + y)
  let v := v.set d (rotate (v[d] ^^^ v[a]) 8)
  let v := v.set c (v[c] + v[d])
  v.set b (rotate (v[b] ^^^ v[c]) 7)

/-- One round: the columns of the state, then its diagonals. -/
def round (v m : Block) : Block :=
  let v := mix v 0 4 8 12 m[0] m[1]
  let v := mix v 1 5 9 13 m[2] m[3]
  let v := mix v 2 6 10 14 m[4] m[5]
  let v := mix v 3 7 11 15 m[6] m[7]
  let v := mix v 0 5 10 15 m[8] m[9]
  let v := mix v 1 6 11 12 m[10] m[11]
  let v := mix v 2 7 8 13 m[12] m[13]
  mix v 3 4 9 14 m[14] m[15]

/-- The order of the message words in the next round. -/
def permute (m : Block) : Block :=
  #v[m[2], m[6], m[3], m[10], m[7], m[0], m[4], m[13], m[1], m[11], m[12], m[5], m[9], m[14], m[15],
    m[8]]

/-- `n` further rounds. -/
def rounds : (n : Nat) → (v m : Block) → Block
  | 0, v, _ => v
  | n + 1, v, m => rounds n (round v m) (permute m)

/-- What one compression works on. -/
structure Node where
  chain : Chain
  block : Block
  counter : UInt64
  length : UInt32
  flags : UInt32

/-- Marks the first block of a chunk. -/
def flagChunkStart : UInt32 := 1
/-- Marks the last block of a chunk. -/
def flagChunkEnd : UInt32 := 2
/-- Marks a parent. -/
def flagParent : UInt32 := 4
/-- Marks the root. -/
def flagRoot : UInt32 := 8

/-- The chaining value that a node gives under additional flags. -/
def Node.compress (n : Node) (flags : UInt32) : Chain :=
  let h := n.chain
  let v : Block :=
    #v[h[0], h[1], h[2], h[3], h[4], h[5], h[6], h[7], start[0], start[1], start[2], start[3],
      n.counter.toUInt32, (n.counter >>> 32).toUInt32, n.length, n.flags ||| flags]
  let v := rounds 7 v n.block
  #v[v[0] ^^^ v[8], v[1] ^^^ v[9], v[2] ^^^ v[10], v[3] ^^^ v[11], v[4] ^^^ v[12], v[5] ^^^ v[13],
    v[6] ^^^ v[14], v[7] ^^^ v[15]]

/-! ## Chunks and the tree -/

/-- The number of bytes in a block. -/
def blockSize : Nat := 64

/-- The number of bytes in a chunk. -/
def chunkSize : Nat := 1024

/-- Up to 64 bytes as sixteen little-endian words, padded by zeros. -/
def blockOf (bytes : List UInt8) : Block :=
  let a := bytes.toArray
  let byte (i : Nat) : UInt32 := (a.getD i 0).toUInt32
  Vector.ofFn fun i =>
    byte (4 * i) ||| (byte (4 * i + 1) <<< 8) ||| (byte (4 * i + 2) <<< 16) |||
      (byte (4 * i + 3) <<< 24)

/-- The last node of a chunk, of which `bytes` are left; `flags` mark its next block. -/
def chunkNode (counter : UInt64) (chain : Chain) (flags : UInt32) (bytes : List UInt8) : Node :=
  if blockSize < bytes.length then
    let n : Node := ⟨chain, blockOf (bytes.take blockSize), counter, blockSize.toUInt32, flags⟩
    chunkNode counter (n.compress 0) 0 (bytes.drop blockSize)
  else ⟨chain, blockOf bytes, counter, bytes.length.toUInt32, flags ||| flagChunkEnd⟩
termination_by bytes.length
decreasing_by simp [blockSize] at *; omega

/-- The size of the left subtree over `n` bytes: the largest number of chunks that is a power of two
    and leaves something for the right one. -/
def leftLength (n : Nat) : Nat := chunkSize * Nat.pow 2 ((n - 1) / chunkSize).log2

theorem leftLength_pos (n : Nat) : 0 < leftLength n := by
  simp only [leftLength, chunkSize, Nat.pow_eq]
  have := Nat.two_pow_pos ((n - 1) / 1024).log2
  omega

theorem leftLength_lt {n : Nat} (h : chunkSize < n) : leftLength n < n := by
  have hk : (n - 1) / chunkSize ≠ 0 := by
    simp only [chunkSize] at *; omega
  have := Nat.log2_self_le hk
  simp only [leftLength, chunkSize, Nat.pow_eq] at *
  omega

/-- The node over a sequence of bytes that starts at the `counter`-th chunk. -/
def nodeOf (counter : UInt64) (bytes : List UInt8) : Node :=
  if chunkSize < bytes.length then
    let n := leftLength bytes.length
    let left := (nodeOf counter (bytes.take n)).compress 0
    let right := (nodeOf (counter + (n / chunkSize).toUInt64) (bytes.drop n)).compress 0
    ⟨start, left ++ right, 0, blockSize.toUInt32, flagParent⟩
  else chunkNode counter start flagChunkStart bytes
termination_by bytes.length
decreasing_by
  all_goals
    rename_i h
    have := leftLength_lt h
    have := leftLength_pos bytes.length
    simp
    omega

/-- The eight words of the digest. -/
def hash (bytes : List UInt8) : Chain := (nodeOf 0 bytes).compress flagRoot

/-! ## Hexadecimal text -/

/-- The two hexadecimal digits of a byte, in lower case. -/
def hexByte (b : UInt8) : List Char :=
  [Nat.digitChar (b.toNat / 16), Nat.digitChar (b.toNat % 16)]

/-- The bytes of a word, the least significant first. -/
def wordBytes (w : UInt32) : List UInt8 :=
  [w.toUInt8, (w >>> 8).toUInt8, (w >>> 16).toUInt8, (w >>> 24).toUInt8]

/-- The digest as 64 hexadecimal digits. -/
def hexDigest (bytes : List UInt8) : List Char :=
  ((hash bytes).toList.flatMap wordBytes).flatMap hexByte

end Retouch.Blake3
