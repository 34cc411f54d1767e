/-!
# BLAKE3

The 256-bit BLAKE3 digest of a byte string, without key and without key derivation.

## Main definitions

* `Digest.compress` — the compression function
* `Digest.tree` — the node over a run of chunks
* `blake3` — the digest of a byte string
* `blake3Hex` — the digest in hexadecimal digits

## Design notes

The input is cut into chunks of 1024 bytes and each chunk into blocks of 64. A node over several
chunks puts the largest power of two that is smaller than their number to the left, which is also
why the recursion ends.
-/

namespace Classpath

namespace Digest

/-- The words that a hash starts from. -/
def initial : Vector UInt32 8 :=
  #v[0x6a09e667, 0xbb67ae85, 0x3c6ef372, 0xa54ff53a, 0x510e527f, 0x9b05688c, 0x1f83d9ab,
    0x5be0cd19]

/-- Where the words of a block come from in the next round. -/
def permutation : Vector (Fin 16) 16 :=
  #v[2, 6, 3, 10, 7, 0, 4, 13, 1, 11, 12, 5, 9, 14, 15, 8]

/-- A word turned to the right. -/
def rotate (x : UInt32) (n : UInt32) : UInt32 :=
  (x >>> n) ||| (x <<< (32 - n))

/-- Mixes two words of a block into four words of the state. -/
def mix (v : Vector UInt32 16) (a b c d : Fin 16) (x y : UInt32) : Vector UInt32 16 :=
  let a' := v[a] + v[b] + x
  let d' := rotate (v[d] ^^^ a') 16
  let c' := v[c] + d'
  let b' := rotate (v[b] ^^^ c') 12
  let a'' := a' + b' + y
  let d'' := rotate (d' ^^^ a'') 8
  let c'' := c' + d''
  let b'' := rotate (b' ^^^ c'') 7
  (((v.set a a'').set b b'').set c c'').set d d''

/-- Mixes a block into the columns and then the diagonals of the state. -/
def round (v m : Vector UInt32 16) : Vector UInt32 16 :=
  let v := mix v 0 4 8 12 m[0] m[1]
  let v := mix v 1 5 9 13 m[2] m[3]
  let v := mix v 2 6 10 14 m[4] m[5]
  let v := mix v 3 7 11 15 m[6] m[7]
  let v := mix v 0 5 10 15 m[8] m[9]
  let v := mix v 1 6 11 12 m[10] m[11]
  let v := mix v 2 7 8 13 m[12] m[13]
  mix v 3 4 9 14 m[14] m[15]

/-- So many rounds, with the words of the block permuted in between. -/
def rounds : Nat → Vector UInt32 16 → Vector UInt32 16 → Vector UInt32 16
  | 0, v, _ => v
  | n + 1, v, m => rounds n (round v m) (permutation.map (m[·]))

/-- The input of a compression. -/
structure Node where
  chain : Vector UInt32 8
  block : Vector UInt32 16
  counter : Nat
  length : Nat
  flags : UInt32

/-- The first eight words that a compression gives. -/
def compress (n : Node) : Vector UInt32 8 :=
  let h := n.chain
  let v : Vector UInt32 16 :=
    #v[h[0], h[1], h[2], h[3], h[4], h[5], h[6], h[7],
      initial[0], initial[1], initial[2], initial[3],
      n.counter.toUInt32, (n.counter >>> 32).toUInt32, n.length.toUInt32, n.flags]
  let v := rounds 7 v n.block
  .ofFn fun (i : Fin 8) => v[i.castLE (by decide : 8 ≤ 16)] ^^^ v[i.natAdd 8]

/-- A list cut into pieces of `n + 1` members, the last one perhaps shorter. -/
def pieces {α : Type} (n : Nat) (xs : List α) : List (List α) :=
  match xs with
  | [] => []
  | x :: rest => (x :: rest.take n) :: pieces n (rest.drop n)
termination_by xs.length

/-- The word of four bytes, the least significant first; missing bytes are zero. -/
def word (bytes : List UInt8) : UInt32 :=
  bytes.foldr (fun b w => w * 256 + b.toUInt32) 0

/-- The words of a block. -/
def blockWords (bytes : List UInt8) : Vector UInt32 16 :=
  .ofFn fun i => word ((bytes.drop (4 * i.val)).take 4)

/-- The flag of the first block of a chunk. -/
def chunkStart : UInt32 := 1

/-- The flag of the last block of a chunk. -/
def chunkEnd : UInt32 := 2

/-- The flag of a node over two others. -/
def parentFlag : UInt32 := 4

/-- The flag of the last compression. -/
def rootFlag : UInt32 := 8

/-- The node of the blocks of a chunk, given what came out of the blocks before. -/
def chunkBlocks (counter : Nat) (chain : Vector UInt32 8) (flags : UInt32) :
    List (List UInt8) → Node
  | [] => ⟨chain, blockWords [], counter, 0, flags ||| chunkEnd⟩
  | [last] => ⟨chain, blockWords last, counter, last.length, flags ||| chunkEnd⟩
  | block :: rest =>
    chunkBlocks counter (compress ⟨chain, blockWords block, counter, block.length, flags⟩) 0 rest

/-- The node of a chunk. -/
def chunkNode (counter : Nat) (bytes : List UInt8) : Node :=
  chunkBlocks counter initial chunkStart (pieces 63 bytes)

/-- The node over two others. -/
def parent (left right : Node) : Node :=
  let l := compress left
  let r := compress right
  ⟨initial, #v[l[0], l[1], l[2], l[3], l[4], l[5], l[6], l[7],
    r[0], r[1], r[2], r[3], r[4], r[5], r[6], r[7]], 0, 64, parentFlag⟩

/-- The largest power of two that is not above `n`, if `n` is positive. -/
def powerBelow (n : Nat) : Nat :=
  Nat.pow 2 n.log2

theorem powerBelow_pos (n : Nat) : 0 < powerBelow n :=
  Nat.two_pow_pos _

theorem powerBelow_le {n : Nat} (h : n ≠ 0) : powerBelow n ≤ n :=
  Nat.log2_self_le h

/-- The node over a run of chunks that begins with chunk `counter`. The left part of a longer run
holds as many chunks as the largest power of two below their number. -/
def tree (counter : Nat) (chunks : List (List UInt8)) : Node :=
  match chunks with
  | [] => chunkNode counter []
  | [chunk] => chunkNode counter chunk
  | first :: second :: rest =>
    let left := powerBelow (rest.length + 1)
    parent (tree counter ((first :: second :: rest).take left))
      (tree (counter + left) ((first :: second :: rest).drop left))
termination_by chunks.length
decreasing_by
  all_goals
    have le : powerBelow (rest.length + 1) ≤ rest.length + 1 := powerBelow_le (by omega)
    have pos : 0 < powerBelow (rest.length + 1) := powerBelow_pos _
    simp
    omega

/-- The bytes of a word, the least significant first. -/
def wordBytes (w : UInt32) : List UInt8 :=
  [w.toUInt8, (w >>> 8).toUInt8, (w >>> 16).toUInt8, (w >>> 24).toUInt8]

/-- Two hexadecimal digits for a byte. -/
def byteHex (b : UInt8) : List Char :=
  [Nat.digitChar (b.toNat / 16), Nat.digitChar (b.toNat % 16)]

end Digest

/-- The digest of a byte string. -/
def blake3 (bytes : List UInt8) : List UInt8 :=
  let root := Digest.tree 0 (Digest.pieces 1023 bytes)
  let digest := Digest.compress { root with counter := 0, flags := root.flags ||| Digest.rootFlag }
  digest.toList.flatMap Digest.wordBytes

/-- The digest of a byte string in hexadecimal digits. -/
def blake3Hex (bytes : List UInt8) : String :=
  .ofList ((blake3 bytes).flatMap Digest.byteHex)

end Classpath
