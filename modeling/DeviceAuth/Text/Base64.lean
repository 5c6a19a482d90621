import DeviceAuth.Octets

/-!
# Base64

Bytes as text in one of two alphabets: the standard one, always padded, and the one for URLs, never
padded. Decoding accepts a canonical text alone: no white space, exact padding, and no bits set
beyond the last byte.
-/

namespace DeviceAuth.Base64

/-- Which 64 characters are used, and whether the last group is filled up with `=`. -/
structure Alphabet where
  /-- The character for 62. -/
  plus : Char
  /-- The character for 63. -/
  slash : Char
  padded : Bool

/-- The standard alphabet, padded. -/
def standard : Alphabet := ⟨'+', '/', true⟩

/-- The alphabet for URLs and file names, unpadded. -/
def url : Alphabet := ⟨'-', '_', false⟩

namespace Alphabet

variable (α : Alphabet)

/-- The character for a number below 64. -/
def digit (n : Nat) : Char :=
  if n < 26 then Char.ofNat (n + 65)
  else if n < 52 then Char.ofNat (n + 71)
  else if n < 62 then Char.ofNat (n - 4)
  else if n = 62 then α.plus
  else α.slash

/-- The number below 64 a character stands for. -/
def value? (c : Char) : Option Nat :=
  if 'A' ≤ c ∧ c ≤ 'Z' then some (c.toNat - 65)
  else if 'a' ≤ c ∧ c ≤ 'z' then some (c.toNat - 71)
  else if '0' ≤ c ∧ c ≤ '9' then some (c.toNat + 4)
  else if c = α.plus then some 62
  else if c = α.slash then some 63
  else none

/-- The padding of a last group, if the alphabet pads. -/
def padding (n : Nat) : List Char := if α.padded then List.replicate n '=' else []

/-- Three bytes to four characters; one byte left over takes two, two take three. -/
def encode : Octets → List Char
  | [] => []
  | [a] => [α.digit (a.toNat / 4), α.digit (a.toNat % 4 * 16)] ++ α.padding 2
  | [a, b] =>
    [α.digit (a.toNat / 4), α.digit (a.toNat % 4 * 16 + b.toNat / 16),
      α.digit (b.toNat % 16 * 4)] ++ α.padding 1
  | a :: b :: c :: rest =>
    α.digit (a.toNat / 4) :: α.digit (a.toNat % 4 * 16 + b.toNat / 16)
      :: α.digit (b.toNat % 16 * 4 + c.toNat / 64) :: α.digit (c.toNat % 64) :: encode rest

/-- One byte from a last group of two characters, which has four bits to spare. -/
def decodeOne? (p q : Char) : Option Octets := do
  let x ← α.value? p
  let y ← α.value? q
  if y % 16 = 0 then some [UInt8.ofNat (x * 4 + y / 16)] else none

/-- Two bytes from a last group of three characters, which has two bits to spare. -/
def decodeTwo? (p q r : Char) : Option Octets := do
  let x ← α.value? p
  let y ← α.value? q
  let z ← α.value? r
  if z % 4 = 0 then
    some [UInt8.ofNat (x * 4 + y / 16), UInt8.ofNat (y % 16 * 16 + z / 4)]
  else none

/-- Three bytes from a full group. -/
def decodeThree? (p q r s : Char) : Option Octets := do
  let x ← α.value? p
  let y ← α.value? q
  let z ← α.value? r
  let w ← α.value? s
  some [UInt8.ofNat (x * 4 + y / 16), UInt8.ofNat (y % 16 * 16 + z / 4),
    UInt8.ofNat (z % 4 * 64 + w)]

/-- The bytes a text encodes, if it is how they are written. -/
def decode? : List Char → Option Octets
  | [] => some []
  | [p, q] => if α.padded then none else α.decodeOne? p q
  | [p, q, r] => if α.padded then none else α.decodeTwo? p q r
  | p :: q :: r :: s :: rest =>
    if α.padded ∧ s = '=' ∧ rest = [] then
      if r = '=' then α.decodeOne? p q else α.decodeTwo? p q r
    else do
      let bytes ← α.decodeThree? p q r s
      let more ← decode? rest
      some (bytes ++ more)
  | _ => none

end Alphabet

end DeviceAuth.Base64
