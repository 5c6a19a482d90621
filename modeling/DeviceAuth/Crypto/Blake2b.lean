import DeviceAuth.Crypto.Quad
import DeviceAuth.Crypto.Words

/-!
# BLAKE2b

A keyed hash with outputs of up to 64 bytes. The sixteen working words stand in four rows: a round
mixes the columns, then, after shifting the rows against each other, the diagonals.
-/

namespace DeviceAuth.Crypto.Blake2b

/-- The sixteen working words, row by row. -/
abbrev Rows := Quad (Quad UInt64)

/-- The words of SHA-512's initial state. -/
def iv : Quad UInt64 × Quad UInt64 :=
  (⟨0x6a09e667f3bcc908, 0xbb67ae8584caa73b, 0x3c6ef372fe94f82b, 0xa54ff53a5f1d36f1⟩,
   ⟨0x510e527fade682d1, 0x9b05688c2b3e6c1f, 0x1f83d9abfb41bd6b, 0x5be0cd19137e2179⟩)

/-- In which order the twelve rounds take the words of a block. -/
def orders : List (List Nat) :=
  [[0, 1, 2, 3, 4, 5, 6, 7, 8, 9, 10, 11, 12, 13, 14, 15],
   [14, 10, 4, 8, 9, 15, 13, 6, 1, 12, 0, 2, 11, 7, 5, 3],
   [11, 8, 12, 0, 5, 2, 15, 13, 10, 14, 3, 6, 7, 1, 9, 4],
   [7, 9, 3, 1, 13, 12, 11, 14, 2, 6, 5, 10, 4, 0, 15, 8],
   [9, 0, 5, 7, 2, 4, 10, 15, 14, 1, 11, 12, 6, 8, 3, 13],
   [2, 12, 6, 10, 0, 11, 8, 3, 4, 13, 7, 5, 15, 14, 1, 9],
   [12, 5, 1, 15, 14, 13, 4, 10, 0, 7, 6, 3, 9, 2, 8, 11],
   [13, 11, 7, 14, 12, 1, 3, 9, 5, 0, 15, 4, 8, 6, 2, 10],
   [6, 15, 14, 9, 11, 3, 0, 8, 12, 2, 13, 7, 1, 4, 10, 5],
   [10, 2, 8, 4, 7, 6, 1, 5, 15, 11, 9, 14, 3, 12, 13, 0],
   [0, 1, 2, 3, 4, 5, 6, 7, 8, 9, 10, 11, 12, 13, 14, 15],
   [14, 10, 4, 8, 9, 15, 13, 6, 1, 12, 0, 2, 11, 7, 5, 3]]

/-- All four columns mixed at once, each with two words of the block. -/
def mixColumns (v : Rows) (x y : Quad UInt64) : Rows :=
  let step (v : Rows) (m : Quad UInt64) (r1 r2 : UInt64) : Rows :=
    let a := (v.a.zipWith (· + ·) v.b).zipWith (· + ·) m
    let d := (v.d.zipWith (· ^^^ ·) a).map (rotateRight64 · r1)
    let c := v.c.zipWith (· + ·) d
    let b := (v.b.zipWith (· ^^^ ·) c).map (rotateRight64 · r2)
    ⟨a, b, c, d⟩
  step (step v x 32 24) y 16 63

/-- One round over the words of a block in the given order. -/
def round (block : Array UInt64) (v : Rows) (order : List Nat) : Rows :=
  let word (i : Nat) : UInt64 := block.getD (order.getD i 0) 0
  let v := mixColumns v ⟨word 0, word 2, word 4, word 6⟩ ⟨word 1, word 3, word 5, word 7⟩
  let v := mixColumns ⟨v.a, v.b.turn, v.c.turn.turn, v.d.turn.turn.turn⟩
    ⟨word 8, word 10, word 12, word 14⟩ ⟨word 9, word 11, word 13, word 15⟩
  ⟨v.a, v.b.turn.turn.turn, v.c.turn.turn, v.d.turn⟩

/-- One block of 128 bytes mixed into the chained words, knowing how many bytes have been read up
to its end and whether it is the last. -/
def compress (h : Quad UInt64 × Quad UInt64) (block : Octets) (read : Nat) (last : Bool) :
    Quad UInt64 × Quad UInt64 :=
  let words := (words64le block).toArray
  let tweak : Quad UInt64 :=
    ⟨UInt64.ofNat read, UInt64.ofNat (read / 0x10000000000000000),
      if last then 0xffffffffffffffff else 0, 0⟩
  let v := orders.foldl (round words) ⟨h.1, h.2, iv.1, iv.2.zipWith (· ^^^ ·) tweak⟩
  ((h.1.zipWith (· ^^^ ·) v.a).zipWith (· ^^^ ·) v.c,
   (h.2.zipWith (· ^^^ ·) v.b).zipWith (· ^^^ ·) v.d)

/-- The remaining blocks of a message in turn, after `read` bytes of it. The last block there is
may be short, and is padded with zeros. -/
def absorb : Nat → Nat → Quad UInt64 × Quad UInt64 → Octets → Quad UInt64 × Quad UInt64
  | 0, read, h, m =>
    compress h (m ++ List.replicate (128 - m.length) 0) (read + m.length) true
  | more + 1, read, h, m =>
    absorb more (read + 128) (compress h (m.take 128) (read + 128) false) (m.drop 128)

/-- The keyed hash with `n` bytes of output. A key, of at most 64 bytes, is a first block of its
own. -/
def mac (n : Nat) (hn : n ≤ 64) (key message : Octets) : Block n :=
  let params := (0x01010000 : UInt64) ||| UInt64.ofNat key.length <<< 8 ||| UInt64.ofNat n
  let start := (iv.1.zipWith (· ^^^ ·) ⟨params, 0, 0, 0⟩, iv.2)
  let m := if key = [] then message else key ++ List.replicate (128 - key.length) 0 ++ message
  let h := absorb ((m.length - 1) / 128) 0 start m
  Block.take n ((h.1.toList ++ h.2.toList).flatMap octets64le) (by simpa [Quad.toList] using hn)

end DeviceAuth.Crypto.Blake2b
