import DeviceAuth.Crypto.Hkdf

/-!
# Keys

A root secret has 32 bytes. Keys for particular purposes are derived from it, one for each text
that names a purpose.
-/

namespace DeviceAuth

/-- Why a key or a chain of keys could not be made or used. -/
inductive KeyError
  | invalidRootKey
  | invalidClientId
  | invalidServerSeed
  | keyDerivationFailed (why : String)
  | encryptionFailed (why : String)
  /-- Without any detail: a blob that is too short and one that was tampered with look the same. -/
  | decryptionFailed
deriving DecidableEq

/-- The wording of an error. -/
def KeyError.message : KeyError → String
  | invalidRootKey => "invalid client root key: must be 32 bytes"
  | invalidClientId => "invalid client ID: must be a valid UUID v4"
  | invalidServerSeed => "invalid server seed: must be at least 32 bytes"
  | keyDerivationFailed why => "key derivation failed: " ++ why
  | encryptionFailed why => "encryption failed: " ++ why
  | decryptionFailed => "decryption failed"

/-- A root secret. -/
structure RootKey where
  bytes : Block 32
deriving DecidableEq

/-- A key for one purpose. -/
structure DerivedKey where
  bytes : Block 32
deriving DecidableEq

namespace RootKey

/-- The root secret that bytes are. -/
def ofOctets (bs : Octets) : Except KeyError RootKey :=
  match Block.ofOctets? 32 bs with
  | some b => .ok ⟨b⟩
  | none => .error .invalidRootKey

/-- The key for a purpose. -/
def derive (root : RootKey) (domain : String) : DerivedKey :=
  ⟨Crypto.hkdf root.bytes.octets (Octets.ofString domain)⟩

/-- What is shown of a root secret. -/
def redacted : String := "RootKey \x7b bytes: \"[REDACTED]\" \x7d"

end RootKey

namespace DerivedKey

/-- What is shown of a derived key. -/
def redacted : String := "DerivedKey \x7b bytes: \"[REDACTED]\" \x7d"

end DerivedKey

/-- The purpose of the key that seals tokens. -/
def tokenDomain : String := "client.token.paseto-v4.v1"

/-- The purpose of the key that seals other keys. -/
def keyEncryptionDomain : String := "client.key-encryption-key.v1"

end DeviceAuth
