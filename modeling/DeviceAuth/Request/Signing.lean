import DeviceAuth.Credential
import DeviceAuth.Request.Basic

/-!
# Signing requests

A device puts its name and a fresh token on every request it sends. Nothing is kept between
requests, and a request for which no token can be minted is not sent.
-/

namespace DeviceAuth

/-- Why a request was not signed. -/
inductive SigningError
  /-- The token would expire after the end of time. -/
  | outOfTime
  | rejected (r : Rejection)

namespace Request

variable {ρ : Type}

/-- A request with a token and the name of its device, in place of all that were there before. -/
def withToken (request : Request) (token : String) (device : DeviceId) : Request :=
  { request with
    headers :=
      (request.headers.insert authorizationHeader (Octets.ofString (bearer ++ token))).insert
        deviceIdHeader device.octets }

/-- A request signed with a credential at an instant. -/
def sign (R : RandomSource ρ) (c : Credential) (now : Instant) (request : Request) (r : ρ) :
    Except SigningError Request × ρ :=
  match c.mint R now r with
  | (.ok token, r) => (.ok (request.withToken token c.device), r)
  | (.error .outOfTime, r) => (.error .outOfTime, r)
  | (.error (.failed e), r) =>
    (.error (.rejected ⟨(AuthError.tokenCreationFailed e.message).message⟩), r)

end Request

/-- What is shown of the signer with a credential. -/
def Credential.showSigner (c : Credential) : String :=
  "AuthInterceptor \x7b device_id: " ++ Credential.showDevice c.device ++ ", .. \x7d"

end DeviceAuth
