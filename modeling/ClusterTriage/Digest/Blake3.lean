/-!
# BLAKE3

The hash that fingerprints explanation requests, and its keyed form, whose unbounded output stream
draws the masks. A message is cut into chunks of 1024 bytes, the chunks are the leaves of a binary
tree, and the root of the tree gives as many output bytes as are asked for.
-/

namespace ClusterTriage
namespace Digest
namespace Blake3

/-! ## 1. Compression -/

/-- Eight words that chain one block to the next. -/
abbrev Chain := Vector UInt32 8

/-- Sixteen words: a message block, or the state that mixes it. -/
abbrev Block := Vector UInt32 16

/-- The initial chain of the unkeyed hash. -/
def initial : Chain :=
  #v[0x6A09E667, 0xBB67AE85, 0x3C6EF372, 0xA54FF53A, 0x510E527F, 0x9B05688C, 0x1F83D9AB, 0x5BE0CD19]

/-! The flags of a block say what it is for, and are added up. -/

/-- The first block of a chunk. -/
def chunkStart : UInt32 := 1

def chunkEnd : UInt32 := 2

/-- A block that joins two chains. -/
def parent : UInt32 := 4

def root : UInt32 := 8

/-- Any block of a hash under a key. -/
def keyedHash : UInt32 := 16

def rotateRight (x n : UInt32) : UInt32 := (x >>> n) ||| (x <<< (32 - n))

/-- Mixes two message words into one column or diagonal of the state. -/
def mix (v : Block) (a b c d : Fin 16) (x y : UInt32) : Block :=
  let va := v[a] + v[b] + x
  let vd := rotateRight (v[d] ^^^ va) 16
  let vc := v[c] + vd
  let vb := rotateRight (v[b] ^^^ vc) 12
  let va := va + vb + y
  let vd := rotateRight (vd ^^^ va) 8
  let vc := vc + vd
  let vb := rotateRight (vb ^^^ vc) 7
  (((v.set a va).set b vb).set c vc).set d vd

/-- Mixes the columns and then the diagonals. -/
def mixAll (v m : Block) : Block :=
  let v := mix v 0 4 8 12 m[0] m[1]
  let v := mix v 1 5 9 13 m[2] m[3]
  let v := mix v 2 6 10 14 m[4] m[5]
  let v := mix v 3 7 11 15 m[6] m[7]
  let v := mix v 0 5 10 15 m[8] m[9]
  let v := mix v 1 6 11 12 m[10] m[11]
  let v := mix v 2 7 8 13 m[12] m[13]
  mix v 3 4 9 14 m[14] m[15]

/-- The order in which the next round reads the message words. -/
def permute (m : Block) : Block :=
  #v[m[2], m[6], m[3], m[10], m[7], m[0], m[4], m[13],
     m[1], m[11], m[12], m[5], m[9], m[14], m[15], m[8]]

/-- The rounds of one compression, the message permuted between two of them. -/
def rounds : Nat → Block → Block → Block
  | 0, v, _ => v
  | n + 1, v, m => rounds n (mixAll v m) (permute m)

/-- One block before it is compressed: a chunk's last block, or the two chains of a parent. -/
structure Node where
  chain : Chain
  block : Block
  counter : UInt64
  length : UInt32
  flags : UInt32

namespace Node

/-- The sixteen words that a node compresses to. -/
def compress (n : Node) : Block :=
  let h := n.chain
  let v : Block :=
    #v[h[0], h[1], h[2], h[3], h[4], h[5], h[6], h[7],
       0x6A09E667, 0xBB67AE85, 0x3C6EF372, 0xA54FF53A,
       n.counter.toUInt32, (n.counter >>> 32).toUInt32, n.length, n.flags]
  let v := rounds 7 v n.block
  #v[v[0] ^^^ v[8], v[1] ^^^ v[9], v[2] ^^^ v[10], v[3] ^^^ v[11],
     v[4] ^^^ v[12], v[5] ^^^ v[13], v[6] ^^^ v[14], v[7] ^^^ v[15],
     v[8] ^^^ h[0], v[9] ^^^ h[1], v[10] ^^^ h[2], v[11] ^^^ h[3],
     v[12] ^^^ h[4], v[13] ^^^ h[5], v[14] ^^^ h[6], v[15] ^^^ h[7]]

/-- The chain that a node hands to its parent. -/
def output (n : Node) : Chain :=
  let v := n.compress
  #v[v[0], v[1], v[2], v[3], v[4], v[5], v[6], v[7]]

end Node

/-! ## 2. Words and bytes -/

/-- The word of four bytes, least significant first; missing bytes are zero. -/
def word (bytes : Array UInt8) (i : Nat) : UInt32 :=
  (bytes.getD i 0).toUInt32 ||| ((bytes.getD (i + 1) 0).toUInt32 <<< 8) |||
    ((bytes.getD (i + 2) 0).toUInt32 <<< 16) ||| ((bytes.getD (i + 3) 0).toUInt32 <<< 24)

/-- The block of at most 64 bytes, padded with zeros. -/
def blockOf (bytes : List UInt8) : Block :=
  let a := bytes.toArray
  Vector.ofFn fun i => word a (4 * i.val)

/-- The chain of a 32-byte key. -/
def chainOf (bytes : List UInt8) : Chain :=
  let a := bytes.toArray
  Vector.ofFn fun i => word a (4 * i.val)

def wordBytes (w : UInt32) : List UInt8 :=
  [w.toUInt8, (w >>> 8).toUInt8, (w >>> 16).toUInt8, (w >>> 24).toUInt8]

/-! ## 3. The tree -/

/-- The node of a chunk: every block but the last is compressed into the chain. -/
def chunkNode (flags : UInt32) (index : Nat) (chain : Chain) (start : Bool) (bytes : List UInt8) :
    Node :=
  let flags' := if start then flags ||| chunkStart else flags
  if _h : bytes.length ≤ 64 then
    { chain, block := blockOf bytes, counter := UInt64.ofNat index
      length := UInt32.ofNat bytes.length, flags := flags' ||| chunkEnd }
  else
    let node : Node :=
      { chain, block := blockOf (bytes.take 64), counter := UInt64.ofNat index
        length := 64, flags := flags' }
    chunkNode flags index node.output false (bytes.drop 64)
termination_by bytes.length
decreasing_by simp only [List.length_drop]; omega

/-- The greatest power of two below `n`, at least one. -/
def leftSize (n : Nat) : Nat := Nat.pow 2 (Nat.log2 (n - 1))

/-- The node of a subtree over a message. The left part holds as many full chunks as the greatest
power of two that leaves something for the right part. -/
def treeNode (key : Chain) (flags : UInt32) (depth index : Nat) (bytes : List UInt8) : Node :=
  match depth with
  | 0 => chunkNode flags index key true bytes
  | depth + 1 =>
    let chunks := (bytes.length + 1023) / 1024
    if chunks ≤ 1 then chunkNode flags index key true bytes
    else
      let left := leftSize chunks
      let l := (treeNode key flags depth index (bytes.take (left * 1024))).output
      let r := (treeNode key flags depth (index + left) (bytes.drop (left * 1024))).output
      { chain := key, block := l ++ r, counter := 0, length := 64, flags := flags ||| parent }

def rootNode (key : Chain) (flags : UInt32) (bytes : List UInt8) : Node :=
  treeNode key flags bytes.length 0 bytes

/-- The bytes of the `i`th block of the root's output. -/
def outputBlock (node : Node) (i : Nat) : List UInt8 :=
  let node := { node with counter := UInt64.ofNat i, flags := node.flags ||| root }
  node.compress.toList.flatMap wordBytes

/-- The first `n` bytes of the root's output. -/
def stream (node : Node) (n : Nat) : List UInt8 :=
  ((List.range ((n + 63) / 64)).flatMap (outputBlock node)).take n

/-! ## 4. The two hashes -/

def hash (bytes : List UInt8) : List UInt8 := stream (rootNode initial 0 bytes) 32

/-- The first `n` bytes of the output stream of a message under a 32-byte key. -/
def keyedStream (key bytes : List UInt8) (n : Nat) : List UInt8 :=
  stream (rootNode (chainOf key) keyedHash bytes) n

end Blake3
end Digest
end ClusterTriage
