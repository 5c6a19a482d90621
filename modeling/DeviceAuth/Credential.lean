import DeviceAuth.Identity
import DeviceAuth.SealedKey
import DeviceAuth.Text.Quoted
import DeviceAuth.Token.Claims

/-!
# Device credentials

A credential is a device's name together with its root secret. It mints and checks the device's
tokens and seals key material for it, each under a key of its own.
-/

namespace DeviceAuth

/-- A device and its root secret. -/
@[ext] structure Credential where
  root : RootKey
  device : DeviceId
deriving DecidableEq

/-- Why no token was minted. -/
inductive MintError
  /-- The token would expire after the end of time. -/
  | outOfTime
  | failed (e : TokenError)
deriving DecidableEq

/-- The wording of an error. -/
def MintError.message : MintError → String
  | outOfTime => "the token would expire after the end of time"
  | failed e => e.message

namespace Credential

variable {ρ : Type}

/-- The credential made of these bytes and this name. -/
def ofParts (root : Octets) (device : String) : Except KeyError Credential := do
  let root ← RootKey.ofOctets root
  match DeviceId.parse? device with
  | some device => return ⟨root, device⟩
  | none => throw .invalidClientId

theorem ofParts_text (root : RootKey) (id : DeviceId) :
    ofParts root.bytes.octets id.text = .ok ⟨root, id⟩ := by
  simp only [ofParts, RootKey.ofOctets, Block.ofOctets?_octets, DeviceId.parse?_text]
  rfl

/-- The key that seals the device's tokens. -/
def tokenKey (c : Credential) : DerivedKey := c.root.derive tokenDomain

/-- The key that seals key material for the device. -/
def keyEncryptionKey (c : Credential) : DerivedKey := c.root.derive keyEncryptionDomain

/-- A token issued at an instant, bound to the device. -/
def mint (R : RandomSource ρ) (c : Credential) (now : Instant) (r : ρ) :
    Except MintError String × ρ :=
  match Claims.issuedAt? now with
  | none => (.error .outOfTime, r)
  | some claims =>
    let (token, r) := Token.issue R c.tokenKey claims c.device.octets r
    (token.mapError .failed, r)

/-- The claims of a token of this device that is valid at an instant. -/
def verify (c : Credential) (token : String) (now : Instant) : Except TokenError Claims :=
  Token.verify c.tokenKey token c.device.octets now

/-- Key material sealed for the device. -/
def encryptKey (R : RandomSource ρ) (c : Credential) (plaintext : Octets) (r : ρ) :
    Except KeyError Octets × ρ :=
  SealedKey.encryptWith R c.keyEncryptionKey plaintext r

/-- The key material in a blob sealed for the device. -/
def decryptKey (c : Credential) (blob : Octets) : Except KeyError Octets :=
  (SealedKey.decrypt c.keyEncryptionKey blob).mapError .ofDecryptError

/-- What is shown of a device's name. -/
def showDevice (device : DeviceId) : String := "ClientId(" ++ Text.quoted device.text ++ ")"

/-- What is shown of a credential. -/
def redacted (c : Credential) : String :=
  "ClientChain \x7b root: " ++ RootKey.redacted ++ ", client_id: " ++ showDevice c.device
    ++ " \x7d"

end Credential

end DeviceAuth
