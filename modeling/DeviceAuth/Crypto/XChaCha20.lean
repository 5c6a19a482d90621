import DeviceAuth.Crypto.Quad
import DeviceAuth.Crypto.Words

/-!
# XChaCha20

ChaCha20 with a nonce of 24 bytes: sixteen of them and the key make a fresh key, under which the
other eight number the stream. A message is masked by exclusive or with the stream, so masking
twice is the message again (`mask_mask`).
-/

namespace DeviceAuth.Crypto.XChaCha20

/-- The sixteen working words, row by row. -/
abbrev Rows := Quad (Quad UInt32)

/-- The words of "expand 32-byte k". -/
def constants : Quad UInt32 := ⟨0x61707865, 0x3320646e, 0x79622d32, 0x6b206574⟩

/-- All four columns mixed at once. -/
def mixColumns (v : Rows) : Rows :=
  let step (v : Rows) (r1 r2 : UInt32) : Rows :=
    let a := v.a.zipWith (· + ·) v.b
    let d := (v.d.zipWith (· ^^^ ·) a).map (rotateLeft32 · r1)
    let c := v.c.zipWith (· + ·) d
    let b := (v.b.zipWith (· ^^^ ·) c).map (rotateLeft32 · r2)
    ⟨a, b, c, d⟩
  step (step v 16 12) 8 7

/-- The columns mixed, then the diagonals. -/
def doubleRound (v : Rows) : Rows :=
  let v := mixColumns v
  let v := mixColumns ⟨v.a, v.b.turn, v.c.turn.turn, v.d.turn.turn.turn⟩
  ⟨v.a, v.b.turn.turn.turn, v.c.turn.turn, v.d.turn⟩

/-- Twenty rounds. -/
def rounds (v : Rows) : Rows := Nat.repeat doubleRound 10 v

/-- A row of four words, least significant byte first; missing bytes count as zero. -/
def row (bs : Octets) : Quad UInt32 :=
  let ws := words32le bs
  ⟨ws.getD 0 0, ws.getD 1 0, ws.getD 2 0, ws.getD 3 0⟩

/-- The bytes of a row, least significant first in each word. -/
def rowOctets (r : Quad UInt32) : Octets := r.toList.flatMap octets32le

/-- The state with the key in the two middle rows. -/
def keyed (key : Block 32) (last : Quad UInt32) : Rows :=
  ⟨constants, row (key.octets.take 16), row (key.octets.drop 16), last⟩

/-- The key for one stream: what the outer rows become, without the addition that closes a block. -/
def subkey (key : Block 32) (nonce : Block 24) : Block 32 :=
  let v := rounds (keyed key (row (nonce.octets.take 16)))
  ⟨rowOctets v.a ++ rowOctets v.d, by simp [rowOctets, Quad.toList]⟩

/-- Block `i` of a stream: 64 bytes. -/
def block (key : Block 32) (nonce : Octets) (i : Nat) : Octets :=
  let tail := row (List.replicate 8 0 ++ nonce)
  let v := keyed key ⟨UInt32.ofNat i, tail.b, tail.c, tail.d⟩
  (v.zipWith (fun p q => p.zipWith (· + ·) q) (rounds v)).toList.flatMap rowOctets

@[simp] theorem length_rowOctets (r : Quad UInt32) : (rowOctets r).length = 16 := by
  simp [rowOctets, Quad.toList]

@[simp] theorem length_block (key : Block 32) (nonce : Octets) (i : Nat) :
    (block key nonce i).length = 64 := by
  simp [block, Quad.toList]

/-- The first `n` bytes of the stream for a key and a nonce. -/
def keystream (key : Block 32) (nonce : Block 24) (n : Nat) : Octets :=
  let sub := subkey key nonce
  ((List.range ((n + 63) / 64)).flatMap (block sub (nonce.octets.drop 16))).take n

/-- A message with the stream laid over it. -/
def mask (key : Block 32) (nonce : Block 24) (message : Octets) : Octets :=
  Octets.xor message (keystream key nonce message.length)

@[simp] theorem length_keystream (key : Block 32) (nonce : Block 24) (n : Nat) :
    (keystream key nonce n).length = n := by
  rw [keystream, List.length_take, Octets.length_flatMap_of_length_eq (length_block _ _),
    List.length_range]
  omega

@[simp] theorem length_mask (key : Block 32) (nonce : Block 24) (message : Octets) :
    (mask key nonce message).length = message.length := by
  simp [mask]

/-- Masking twice with one stream is no masking. -/
@[simp] theorem mask_mask (key : Block 32) (nonce : Block 24) (message : Octets) :
    mask key nonce (mask key nonce message) = message := by
  rw [mask, length_mask, mask, Octets.xor_xor_cancel_right _ _ (by simp)]

end DeviceAuth.Crypto.XChaCha20
