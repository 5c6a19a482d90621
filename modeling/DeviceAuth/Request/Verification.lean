import DeviceAuth.Authority
import DeviceAuth.Request.Basic
import DeviceAuth.Text.Affix

/-!
# Verifying requests

A server believes a request whose token verifies under the credential of the device that it names,
if the registry knows that device. The registry is asked only about tokens that verify, and whoever
sent a request that is refused is never told why. What is decided is written for any way of asking a
registry (`authenticateWith`, `receiveWith`), and run with one that notes what it is asked.
-/

namespace DeviceAuth

/-- Whether a device is known, or why that cannot be said. -/
abbrev Registry := DeviceId → Except String Bool

/-- The registry that knows exactly these devices. -/
def Registry.ofDevices (devices : List DeviceId) : Registry := fun device =>
  .ok (devices.contains device)

/-- The registry's answer about a device, once the device is noted as asked about. -/
def Registry.ask (registry : Registry) (device : DeviceId) :
    StateM (List DeviceId) (Except String Bool) := do
  modify (· ++ [device])
  return registry device

/-- What came of a request, and which devices the registry was asked about. -/
structure Verdict where
  result : Except AuthError DeviceId
  lookups : List DeviceId

namespace Authority

/-- The token that a request bears. -/
def bearerToken? (h : Headers) : Option String := do
  let value ← h.first? authorizationHeader
  (Text.after? bearer.toList value.toList).map String.ofList

/-- The device that a request names. -/
def deviceName? (h : Headers) : Option String := do
  let name ← h.first? deviceIdHeader
  if name = "" then none else some name

/-- The device whose token a request bears, valid at an instant. -/
def identify (a : Authority) (now : Instant) (h : Headers) : Except AuthError DeviceId := do
  let some token := bearerToken? h | throw (.invalidToken "missing bearer token")
  let some name := deviceName? h | throw .missingDeviceId
  let credential ← (a.credential name).mapError (.invalidToken ·.message)
  let _ ← (credential.verify token now).mapError (.invalidToken ·.message)
  return credential.device

section Asking

variable {m : Type → Type} [Monad m]

/-- The known device that a request comes from, where a registry can be asked. -/
def authenticateWith (a : Authority) (ask : DeviceId → m (Except String Bool)) (now : Instant)
    (h : Headers) : m (Except AuthError DeviceId) := do
  match a.identify now h with
  | .error e => return .error e
  | .ok device =>
    match ← ask device with
    | .ok true => return .ok device
    | .ok false => return .error .unknownDevice
    | .error why => return .error (.registry why)

/-- A request with the device that it comes from noted on it, or a rejection that gives no reason,
where a registry can be asked. -/
def receiveWith (a : Authority) (ask : DeviceId → m (Except String Bool)) (now : Instant)
    (request : Request) : m (Except Rejection Request) := do
  match ← a.authenticateWith ask now request.headers with
  | .ok device => return .ok { request with device := some device }
  | .error _ => return .error ⟨"unauthenticated"⟩

end Asking

/-- The known device that a request comes from, and which devices the registry was asked about. -/
def authenticate (a : Authority) (registry : Registry) (now : Instant) (h : Headers) : Verdict :=
  let (result, lookups) := (a.authenticateWith registry.ask now h).run []
  ⟨result, lookups⟩

/-- What a request comes to, and which devices the registry was asked about. -/
def receive (a : Authority) (registry : Registry) (now : Instant) (request : Request) :
    Except Rejection Request × List DeviceId :=
  (a.receiveWith registry.ask now request).run []

/-- What is shown of a verifier. -/
def showVerifier : String := "ServerAuthenticator \x7b .. \x7d"

end Authority

end DeviceAuth
