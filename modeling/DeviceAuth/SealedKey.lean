import DeviceAuth.Crypto.Gcm
import DeviceAuth.Key
import DeviceAuth.Random

/-!
# Sealed key material

Key material is sealed with AES-256-GCM into a blob: the ciphertext, then the nonce, then the tag.
`encrypt` writes blobs and `decrypt` reads them, and nothing is read whose tag does not match.
-/

namespace DeviceAuth

/-- Why a blob was not opened. -/
inductive DecryptError
  | malformedCiphertext
  | authenticationFailed
deriving DecidableEq

/-- The wording of an error. -/
def DecryptError.message : DecryptError → String
  | malformedCiphertext => "malformed ciphertext: shorter than nonce + tag"
  | authenticationFailed => "authentication failed: wrong key or corrupted data"

/-- What is told of such an error where keys are handled: nothing. -/
def KeyError.ofDecryptError : DecryptError → KeyError := fun _ => .decryptionFailed

namespace SealedKey

variable {ρ : Type}

/-- A blob around key material. -/
def encrypt (key : DerivedKey) (nonce : Block 12) (plaintext : Octets) : Octets :=
  let ciphertext := Crypto.Gcm.mask key.bytes nonce plaintext
  ciphertext ++ nonce.octets ++ (Crypto.Gcm.tag key.bytes nonce ciphertext).octets

/-- A blob under a nonce from a source. -/
def encryptWith (R : RandomSource ρ) (key : DerivedKey) (plaintext : Octets) (r : ρ) :
    Except KeyError Octets × ρ :=
  match R.fill 12 r with
  | (.ok nonce, r) => (.ok (encrypt key nonce plaintext), r)
  | (.error why, r) => (.error (.encryptionFailed ("nonce generation: " ++ why)), r)

/-- The key material in a blob. -/
def decrypt (key : DerivedKey) (blob : Octets) : Except DecryptError Octets :=
  if h : 28 ≤ blob.length then
    let ciphertext := blob.take (blob.length - 28)
    let nonce : Block 12 := .take 12 (blob.drop (blob.length - 28)) (by simp; omega)
    let tag : Block 16 := ⟨blob.drop (blob.length - 16), by simp; omega⟩
    if Crypto.Gcm.tag key.bytes nonce ciphertext = tag then
      .ok (Crypto.Gcm.mask key.bytes nonce ciphertext)
    else .error .authenticationFailed
  else .error .malformedCiphertext

end SealedKey

end DeviceAuth
