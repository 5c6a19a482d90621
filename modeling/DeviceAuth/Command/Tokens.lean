import DeviceAuth.Command.Failure

/-!
# Commands about tokens

For finding out what goes wrong between a device and its server: one command mints a token from a
root secret and shows the key it is sealed with, the other opens a token and shows what it says.
-/

namespace DeviceAuth.Command

variable {ρ : Type}

/-- The credential that two arguments describe. -/
def credentialOf (root device : String) : Except Failure Credential := do
  let root ← (decodeRootKey root).mapError .rootKey
  (Credential.ofParts root.bytes.octets device).mapError .credential

/-- What is shown of a token and the key that seals it. -/
def showToken (token : String) (key : DerivedKey) : String :=
  "Generated PASETO token:\n" ++ token ++ "\n\nDerived PASETO encryption key (base64):\n"
    ++ String.ofList (Base64.standard.encode key.bytes.octets) ++ "\n"

/-- Mints a token at an instant. -/
def generateToken (R : RandomSource ρ) (root device : String) (now : Instant) (r : ρ) :
    Except Failure String × ρ :=
  match credentialOf root device with
  | .error e => (.error e, r)
  | .ok c =>
    match c.mint R now r with
    | (.ok token, r) => (.ok (showToken token c.tokenKey), r)
    | (.error e, r) => (.error (.minting e), r)

/-- Shows the claims of a token that is valid at an instant. -/
def decryptToken (root device token : String) (now : Instant) : Except Failure String := do
  let c ← credentialOf root device
  let claims ← (c.verify token now).mapError .rejected
  return claims.toJsonLines ++ "\n"

end DeviceAuth.Command
