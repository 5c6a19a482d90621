import DeviceAuth.Crypto.Sha256

/-!
# HMAC-SHA256 and HKDF

Key derivation by RFC 5869 with an empty salt and one block of output: 32 bytes that depend on all
of the input key material and on the `info` naming their purpose.
-/

namespace DeviceAuth.Crypto

/-- The keyed hash HMAC-SHA256; a key over one block is hashed first. -/
def hmac (key message : Octets) : Block 32 :=
  let key := if key.length ≤ 64 then key else (Sha256.hash key).octets
  let padded := key ++ List.replicate (64 - key.length) 0
  let inner := Sha256.hash (padded.map (· ^^^ 0x36) ++ message)
  Sha256.hash (padded.map (· ^^^ 0x5c) ++ inner.octets)

/-- HKDF-SHA256 to 32 bytes: extraction under an empty salt, then the first block of the
expansion for `info`. -/
def hkdf (material info : Octets) : Block 32 :=
  hmac (hmac [] material).octets (info ++ [1])

end DeviceAuth.Crypto
