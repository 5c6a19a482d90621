import DeviceAuth.Octets

/-!
# Framing of authenticated data

A tag covers several byte strings at once. `frame` joins them so that no two different lists look
the same: first how many there are, then each after its length.
-/

namespace DeviceAuth.Token

/-- A number in eight bytes, the least significant first. The topmost bit is always clear. -/
def lengthOctets (n : Nat) : Octets :=
  Octets.digits 8 (n % 0x8000000000000000)

/-- The pieces in one byte string. -/
def frame (pieces : List Octets) : Octets :=
  lengthOctets pieces.length ++ pieces.flatMap fun p => lengthOctets p.length ++ p

end DeviceAuth.Token
