import DeviceAuth.Crypto.Words

/-!
# SHA-256

A hash of byte strings: the message is padded to whole blocks of 64 bytes with its length in bits
at the end, and each block is mixed into eight 32-bit words.
-/

namespace DeviceAuth.Crypto.Sha256

/-- The eight words a message is folded into. -/
structure State where
  a : UInt32
  b : UInt32
  c : UInt32
  d : UInt32
  e : UInt32
  f : UInt32
  g : UInt32
  h : UInt32

/-- The fractional parts of the square roots of the first eight primes. -/
def initial : State :=
  ⟨0x6a09e667, 0xbb67ae85, 0x3c6ef372, 0xa54ff53a, 0x510e527f, 0x9b05688c, 0x1f83d9ab, 0x5be0cd19⟩

/-- The fractional parts of the cube roots of the first sixty-four primes. -/
def roundConstants : List UInt32 :=
  [0x428a2f98, 0x71374491, 0xb5c0fbcf, 0xe9b5dba5, 0x3956c25b, 0x59f111f1, 0x923f82a4, 0xab1c5ed5,
   0xd807aa98, 0x12835b01, 0x243185be, 0x550c7dc3, 0x72be5d74, 0x80deb1fe, 0x9bdc06a7, 0xc19bf174,
   0xe49b69c1, 0xefbe4786, 0x0fc19dc6, 0x240ca1cc, 0x2de92c6f, 0x4a7484aa, 0x5cb0a9dc, 0x76f988da,
   0x983e5152, 0xa831c66d, 0xb00327c8, 0xbf597fc7, 0xc6e00bf3, 0xd5a79147, 0x06ca6351, 0x14292967,
   0x27b70a85, 0x2e1b2138, 0x4d2c6dfc, 0x53380d13, 0x650a7354, 0x766a0abb, 0x81c2c92e, 0x92722c85,
   0xa2bfe8a1, 0xa81a664b, 0xc24b8b70, 0xc76c51a3, 0xd192e819, 0xd6990624, 0xf40e3585, 0x106aa070,
   0x19a4c116, 0x1e376c08, 0x2748774c, 0x34b0bcb5, 0x391c0cb3, 0x4ed8aa4a, 0x5b9cca4f, 0x682e6ff3,
   0x748f82ee, 0x78a5636f, 0x84c87814, 0x8cc70208, 0x90befffa, 0xa4506ceb, 0xbef9a3f7, 0xc67178f2]

/-- `count` more words of the message schedule in front of those there are, the latest first. -/
def extend : Nat → List UInt32 → List UInt32
  | 0, ws => ws
  | count + 1, ws =>
    let early := ws.getD 14 0
    let late := ws.getD 1 0
    let s0 := rotateRight32 early 7 ^^^ rotateRight32 early 18 ^^^ early >>> 3
    let s1 := rotateRight32 late 17 ^^^ rotateRight32 late 19 ^^^ late >>> 10
    extend count ((ws.getD 15 0 + s0 + ws.getD 6 0 + s1) :: ws)

/-- The sixty-four words a block of sixteen is spread into. -/
def schedule (block : Octets) : List UInt32 :=
  (extend 48 (words32be block).reverse).reverse

/-- One round, with its constant and its word of the schedule. -/
def round (s : State) (k w : UInt32) : State :=
  let s1 := rotateRight32 s.e 6 ^^^ rotateRight32 s.e 11 ^^^ rotateRight32 s.e 25
  let choice := (s.e &&& s.f) ^^^ (~~~ s.e &&& s.g)
  let t1 := s.h + s1 + choice + k + w
  let s0 := rotateRight32 s.a 2 ^^^ rotateRight32 s.a 13 ^^^ rotateRight32 s.a 22
  let majority := (s.a &&& s.b) ^^^ (s.a &&& s.c) ^^^ (s.b &&& s.c)
  ⟨t1 + (s0 + majority), s.a, s.b, s.c, s.d + t1, s.e, s.f, s.g⟩

/-- One block mixed into the state. -/
def compress (s : State) (block : Octets) : State :=
  let t := (roundConstants.zip (schedule block)).foldl (fun s kw => round s kw.1 kw.2) s
  ⟨s.a + t.a, s.b + t.b, s.c + t.c, s.d + t.d, s.e + t.e, s.f + t.f, s.g + t.g, s.h + t.h⟩

/-- The message, one bit, as many zeros as complete a block, and the length in bits. -/
def pad (m : Octets) : Octets :=
  m ++ 0x80 :: List.replicate ((119 - m.length % 64) % 64) 0
    ++ octets64be (UInt64.ofNat (8 * m.length))

/-- The bytes of the state, its digest. -/
def State.digest (s : State) : Block 32 :=
  ⟨octets32be s.a ++ octets32be s.b ++ octets32be s.c ++ octets32be s.d ++ octets32be s.e
    ++ octets32be s.f ++ octets32be s.g ++ octets32be s.h, rfl⟩

/-- The SHA-256 digest of a byte string. -/
def hash (m : Octets) : Block 32 :=
  let padded := pad m
  ((Octets.pieces 64 (padded.length / 64) padded).foldl compress initial).digest

end DeviceAuth.Crypto.Sha256
