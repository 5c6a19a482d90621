import DeviceAuth.Crypto.Aes256

/-!
# AES-256-GCM

Counter mode with an authenticator, for nonces of 12 bytes and no associated data. The plaintext is
masked with the cipher's stream from counter 2 on, so masking twice is the plaintext again
(`mask_mask`); the tag is the polynomial hash of the ciphertext and its length, masked with the
stream at counter 1.
-/

namespace DeviceAuth.Crypto.Gcm

/-- An element of the field of 2¹²⁸ elements, its constant term in the most significant bit. -/
abbrev Element := BitVec 128

/-- What x¹²⁸ stands for: x⁷ + x² + x + 1. -/
def reduction : Element := 0xe1000000000000000000000000000000#128

/-- An element multiplied by x. -/
def timesX (v : Element) : Element :=
  if v.getLsbD 0 then v >>> 1 ^^^ reduction else v >>> 1

/-- The sum of the terms of `x` from degree `128 - count` on, each times `v`, which is the other
factor brought to that degree. -/
def mulFrom (x : Element) : Nat → Element → Element → Element
  | 0, _, z => z
  | count + 1, v, z =>
    mulFrom x count (timesX v) (if x.getLsbD count then z ^^^ v else z)

/-- The product of two elements. -/
def mul (x y : Element) : Element := mulFrom x 128 y 0#128

/-- The element of sixteen bytes; missing bytes count as zero. -/
def element (bs : Octets) : Element :=
  BitVec.ofNat 128
    ((bs ++ List.replicate (16 - bs.length) 0).foldl (fun n (b : UInt8) => n * 256 + b.toNat) 0)

/-- The sixteen bytes of an element. -/
def elementOctets (e : Element) : Octets := (Octets.digits 16 e.toNat).reverse

/-- The hash of a ciphertext under the subkey `h`: Horner's scheme over its blocks and a last
block with its length in bits. -/
def hash (h : Element) (ciphertext : Octets) : Element :=
  let blocks := Octets.pieces 16 ((ciphertext.length + 15) / 16) ciphertext
  let lengths := BitVec.ofNat 128 (8 * ciphertext.length)
  (blocks.map element ++ [lengths]).foldl (fun z b => mul (z ^^^ b) h) 0#128

/-- The counter block of a nonce. -/
def counterBlock (nonce : Block 12) (i : Nat) : Block 16 :=
  ⟨nonce.octets ++ octets32be (UInt32.ofNat i), by simp⟩

/-- The first `n` bytes of the stream that masks a plaintext. -/
def keystream (key : Block 32) (nonce : Block 12) (n : Nat) : Octets :=
  let keys := Aes256.roundKeys key
  ((List.range ((n + 15) / 16)).flatMap fun i =>
    (Aes256.encryptWith keys (counterBlock nonce (i + 2))).octets).take n

/-- A plaintext masked, or a ciphertext unmasked. -/
def mask (key : Block 32) (nonce : Block 12) (text : Octets) : Octets :=
  Octets.xor text (keystream key nonce text.length)

@[simp] theorem length_keystream (key : Block 32) (nonce : Block 12) (n : Nat) :
    (keystream key nonce n).length = n := by
  rw [keystream, List.length_take,
    Octets.length_flatMap_of_length_eq fun i => Block.length_octets _, List.length_range]
  omega

@[simp] theorem length_mask (key : Block 32) (nonce : Block 12) (text : Octets) :
    (mask key nonce text).length = text.length := by
  simp [mask]

/-- Masking twice with one stream is no masking. -/
@[simp] theorem mask_mask (key : Block 32) (nonce : Block 12) (text : Octets) :
    mask key nonce (mask key nonce text) = text := by
  rw [mask, length_mask, mask, Octets.xor_xor_cancel_right _ _ (by simp)]

/-- The tag of a ciphertext. -/
def tag (key : Block 32) (nonce : Block 12) (ciphertext : Octets) : Block 16 :=
  let h := element (Aes256.encrypt key (Block.zeros 16)).octets
  let mask := (Aes256.encrypt key (counterBlock nonce 1)).octets
  ⟨Octets.xor (elementOctets (hash h ciphertext)) mask, by simp [elementOctets, mask]⟩

end DeviceAuth.Crypto.Gcm
