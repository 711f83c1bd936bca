/-!
# BLAKE3

The BLAKE3 hash of bytes. The input is cut into chunks of 1024 bytes, each hashed block by block
into a chaining value, and the chaining values are joined pairwise in a tree whose left subtrees are
full. The last compression of the tree has a flag of its own, so it is kept open as an `Output`
until it is known whether it is the root.
-/

namespace CallReplay.Blake3

/-- Sixteen words: a block of the input, or the state of a compression. -/
abbrev Words := Vector UInt32 16

/-- A chaining value. -/
abbrev Chain := Vector UInt32 8

/-- The chaining value that every chunk and every parent starts from. -/
def initial : Chain :=
  #v[0x6A09E667, 0xBB67AE85, 0x3C6EF372, 0xA54FF53A, 0x510E527F, 0x9B05688C, 0x1F83D9AB, 0x5BE0CD19]

/-- The flag of the first block of a chunk. -/
def chunkStart : UInt32 := 1

/-- The flag of the last block of a chunk. -/
def chunkEnd : UInt32 := 2

/-- The flag of a block that joins two chaining values. -/
def parent : UInt32 := 4

/-- The flag of the last compression of a tree. -/
def root : UInt32 := 8

/-- A word with its bits rotated to the right. -/
def rotate (w : UInt32) (count : UInt32) : UInt32 := (w >>> count) ||| (w <<< (32 - count))

/-- Mixes two words of the message into four words of the state. -/
def mix (s : Words) (a b c d : Fin 16) (x y : UInt32) : Words :=
  let va := s[a] + s[b] + x
  let vd := rotate (s[d] ^^^ va) 16
  let vc := s[c] + vd
  let vb := rotate (s[b] ^^^ vc) 12
  let va := va + vb + y
  let vd := rotate (vd ^^^ va) 8
  let vc := vc + vd
  let vb := rotate (vb ^^^ vc) 7
  (((s.set a va).set b vb).set c vc).set d vd

/-- Mixes the message into the columns and then into the diagonals of the state. -/
def round (s m : Words) : Words :=
  let s := mix s 0 4 8 12 m[0] m[1]
  let s := mix s 1 5 9 13 m[2] m[3]
  let s := mix s 2 6 10 14 m[4] m[5]
  let s := mix s 3 7 11 15 m[6] m[7]
  let s := mix s 0 5 10 15 m[8] m[9]
  let s := mix s 1 6 11 12 m[10] m[11]
  let s := mix s 2 7 8 13 m[12] m[13]
  mix s 3 4 9 14 m[14] m[15]

/-- The order of the message words in the next round. -/
def permute (m : Words) : Words :=
  #v[m[2], m[6], m[3], m[10], m[7], m[0], m[4], m[13],
    m[1], m[11], m[12], m[5], m[9], m[14], m[15], m[8]]

/-- Mixes the message in so many more rounds. -/
def rounds : Nat → Words → Words → Words
  | 0, s, _ => s
  | n + 1, s, m => rounds n (round s m) (permute m)

/-- The input of a compression. -/
structure Output where
  chain : Chain
  block : Words
  counter : Nat
  length : Nat
  flags : UInt32

/-- The first half of the compressed state, with further flags. -/
def Output.compress (o : Output) (flags : UInt32) : Chain :=
  let k := o.chain
  let s : Words :=
    #v[k[0], k[1], k[2], k[3], k[4], k[5], k[6], k[7],
      initial[0], initial[1], initial[2], initial[3],
      UInt32.ofNat o.counter, UInt32.ofNat (o.counter / 0x100000000),
      UInt32.ofNat o.length, o.flags ||| flags]
  let s := rounds 7 s o.block
  #v[s[0] ^^^ s[8], s[1] ^^^ s[9], s[2] ^^^ s[10], s[3] ^^^ s[11],
    s[4] ^^^ s[12], s[5] ^^^ s[13], s[6] ^^^ s[14], s[7] ^^^ s[15]]

/-- The chaining value of an output that is not the root. -/
def Output.chaining (o : Output) : Chain := o.compress 0

/-- The word that four bytes stand for, the lowest byte first. -/
def word (a b c d : UInt8) : UInt32 :=
  a.toUInt32 ||| (b.toUInt32 <<< 8) ||| (c.toUInt32 <<< 16) ||| (d.toUInt32 <<< 24)

/-- The words of a block of up to 64 bytes, filled up with zeros. -/
def blockWords (bytes : List UInt8) : Words :=
  let a := bytes.toArray
  Vector.ofFn fun i : Fin 16 =>
    word (a.getD (4 * i.val) 0) (a.getD (4 * i.val + 1) 0) (a.getD (4 * i.val + 2) 0)
      (a.getD (4 * i.val + 3) 0)

/-- Hashes the rest of a chunk, block by block. -/
def hashChunk (counter : Nat) (chain : Chain) (start : UInt32) (bytes : List UInt8) : Output :=
  if bytes.length ≤ 64 then
    ⟨chain, blockWords bytes, counter, bytes.length, start ||| chunkEnd⟩
  else
    let chain := (Output.mk chain (blockWords (bytes.take 64)) counter 64 start).chaining
    hashChunk counter chain 0 (bytes.drop 64)
  termination_by bytes.length
  decreasing_by simp only [List.length_drop]; omega

/-- The output of the parent of two subtrees. -/
def join (left right : Chain) : Output :=
  ⟨initial, left ++ right, 0, 64, parent⟩

/-- How many bytes of a longer input belong to the left subtree: the greatest power of two of chunks
that leaves something for the right one. -/
def leftLength (length : Nat) : Nat := Nat.pow 2 (length - 1).log2

/-- The left subtree of an input of more than a chunk leaves something over. -/
theorem leftLength_lt {length : Nat} (h : 1024 < length) : leftLength length < length := by
  have h : leftLength length ≤ length - 1 := Nat.log2_self_le (by omega)
  omega

/-- The left subtree is not empty. -/
theorem leftLength_pos (length : Nat) : 0 < leftLength length :=
  Nat.two_pow_pos _

/-- Hashes bytes whose first chunk has a number. -/
def hashTree (counter : Nat) (bytes : List UInt8) : Output :=
  if bytes.length ≤ 1024 then
    hashChunk counter initial chunkStart bytes
  else
    let left := leftLength bytes.length
    join (hashTree counter (bytes.take left)).chaining
      (hashTree (counter + left / 1024) (bytes.drop left)).chaining
  termination_by bytes.length
  decreasing_by
    · have := @leftLength_lt bytes.length (by omega)
      simp only [List.length_take]
      omega
    · have := leftLength_pos bytes.length
      simp only [List.length_drop]
      omega

/-- The bytes of a word, the lowest first. -/
def wordBytes (w : UInt32) : List UInt8 :=
  [w.toUInt8, (w >>> 8).toUInt8, (w >>> 16).toUInt8, (w >>> 24).toUInt8]

/-- The hash of some bytes: 32 bytes. -/
def hash (bytes : List UInt8) : List UInt8 :=
  ((hashTree 0 bytes).compress root).toList.flatMap wordBytes

end CallReplay.Blake3
