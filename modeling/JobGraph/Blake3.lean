import JobGraph.Text.Hex

/-!
# BLAKE3

The hash of a byte sequence: chunks of 1024 bytes are hashed block by block, and their chaining
values are joined pairwise, level by level, until one is left.
-/

namespace JobGraph.Blake3

/-- A chaining value. -/
abbrev Chain := Vector UInt32 8

/-- The words of a block, or the state of the compression. -/
abbrev Words := Vector UInt32 16

/-- The initial chaining value. -/
def initial : Chain :=
  #v[0x6a09e667, 0xbb67ae85, 0x3c6ef372, 0xa54ff53a, 0x510e527f, 0x9b05688c, 0x1f83d9ab, 0x5be0cd19]

/-- The flags that tell the uses of the compression apart. -/
def chunkStart : UInt32 := 1

/-- The last block of a chunk. -/
def chunkEnd : UInt32 := 2

/-- A node that joins two others. -/
def parent : UInt32 := 4

/-- The node that gives the hash. -/
def root : UInt32 := 8

/-- `w` turned right by `n` bits. -/
def rotateRight (w n : UInt32) : UInt32 := (w >>> n) ||| (w <<< (32 - n))

/-- Mix two words of the block into four words of the state. -/
def mix (v : Words) (a b c d : Fin 16) (x y : UInt32) : Words :=
  let va := v[a] + v[b] + x
  let vd := rotateRight (v[d] ^^^ va) 16
  let vc := v[c] + vd
  let vb := rotateRight (v[b] ^^^ vc) 12
  let va := va + vb + y
  let vd := rotateRight (vd ^^^ va) 8
  let vc := vc + vd
  let vb := rotateRight (vb ^^^ vc) 7
  (((v.set a va).set b vb).set c vc).set d vd

/-- One round: the columns, then the diagonals. -/
def round (v m : Words) : Words :=
  let v := mix v 0 4 8 12 m[0] m[1]
  let v := mix v 1 5 9 13 m[2] m[3]
  let v := mix v 2 6 10 14 m[4] m[5]
  let v := mix v 3 7 11 15 m[6] m[7]
  let v := mix v 0 5 10 15 m[8] m[9]
  let v := mix v 1 6 11 12 m[10] m[11]
  let v := mix v 2 7 8 13 m[12] m[13]
  mix v 3 4 9 14 m[14] m[15]

/-- The words of a block in the order of the next round. -/
def permute (m : Words) : Words :=
  #v[m[2], m[6], m[3], m[10], m[7], m[0], m[4], m[13], m[1], m[11], m[12], m[5], m[9], m[14], m[15],
    m[8]]

/-- `n` rounds. -/
def rounds : Nat → Words → Words → Words
  | 0, v, _ => v
  | n + 1, v, m => rounds n (round v m) (permute m)

/-- The chaining value of a block of `length` bytes. -/
def compress (h : Chain) (m : Words) (counter : Nat) (length flags : UInt32) : Chain :=
  let v := rounds 7
    #v[h[0], h[1], h[2], h[3], h[4], h[5], h[6], h[7],
      initial[0], initial[1], initial[2], initial[3],
      UInt32.ofNat counter, UInt32.ofNat (counter / Nat.pow 2 32), length, flags] m
  #v[v[0] ^^^ v[8], v[1] ^^^ v[9], v[2] ^^^ v[10], v[3] ^^^ v[11],
    v[4] ^^^ v[12], v[5] ^^^ v[13], v[6] ^^^ v[14], v[7] ^^^ v[15]]

/-- The word at `i` of a block; bytes behind its end count as zero. -/
def wordAt (block : Array UInt8) (i : Nat) : UInt32 :=
  let byte := fun k => (block.getD (4 * i + k) 0).toUInt32
  byte 0 ||| (byte 1 <<< 8) ||| (byte 2 <<< 16) ||| (byte 3 <<< 24)

/-- The words of a block. -/
def blockWords (block : List UInt8) : Words :=
  let bytes := block.toArray
  Vector.ofFn fun i => wordAt bytes i.val

/-- `bytes` in pieces of `size`, at least one. The first argument bounds the number of pieces. -/
def splitEvery (size : Nat) : Nat → List UInt8 → List (List UInt8)
  | 0, bytes => [bytes]
  | fuel + 1, bytes =>
    match bytes.drop size with
    | [] => [bytes]
    | rest => bytes.take size :: splitEvery size fuel rest

/-- The chaining value of the blocks of a chunk, from the block with the flag `first` on. -/
def hashBlocks (counter : Nat) (last : UInt32) : UInt32 → Chain → List (List UInt8) → Chain
  | _, h, [] => h
  | first, h, [b] =>
    compress h (blockWords b) counter (UInt32.ofNat b.length) (first ||| chunkEnd ||| last)
  | first, h, b :: bs =>
    hashBlocks counter last 0 (compress h (blockWords b) counter (UInt32.ofNat b.length) first) bs

/-- The chaining value of a chunk; `last` holds further flags for its last block. -/
def hashChunk (counter : Nat) (last : UInt32) (chunk : List UInt8) : Chain :=
  hashBlocks counter last chunkStart initial (splitEvery 64 chunk.length chunk)

/-- The chaining value that joins two others. -/
def join (flags : UInt32) (l r : Chain) : Chain :=
  compress initial (l ++ r) 0 64 (parent ||| flags)

/-- The next level of the tree: neighbours are joined, and one left over goes up as it is. -/
def level : List Chain → List Chain
  | l :: r :: rest => join 0 l r :: level rest
  | rest => rest

/-- The chaining value on top of the tree. The first argument bounds its height. -/
def top : Nat → List Chain → Chain
  | _, [] => initial
  | _, [c] => c
  | _, [l, r] => join root l r
  | 0, c :: _ => c
  | fuel + 1, cs => top fuel (level cs)

/-- The hash as words. -/
def hashWords (bytes : List UInt8) : Chain :=
  match splitEvery 1024 bytes.length bytes with
  | [chunk] => hashChunk 0 root chunk
  | chunks => top chunks.length (chunks.zipIdx.map fun (chunk, i) => hashChunk i 0 chunk)

/-- The bytes of a word, least significant first. -/
def wordBytes (w : UInt32) : List UInt8 :=
  [w.toUInt8, (w >>> 8).toUInt8, (w >>> 16).toUInt8, (w >>> 24).toUInt8]

/-- The hash of a byte sequence in hexadecimal digits. -/
def hash (bytes : ByteArray) : String :=
  String.ofList (((hashWords bytes.toList).toList.flatMap wordBytes).flatMap Text.hexByte)

end JobGraph.Blake3
