import DeviceAuth.Identity
import DeviceAuth.Request.Headers

/-!
# Requests

A request has headers, of which one bears a token and one names a device, and may be noted to come
from a device. A request that is refused is refused as unauthenticated.
-/

namespace DeviceAuth

/-- A request, and the device that it is known to come from, if it is. -/
structure Request where
  headers : Headers
  device : Option DeviceId

/-- A request whose sender is not known. -/
def Request.unauthenticated (headers : Headers) : Request := ⟨headers, none⟩

/-- A request is refused as unauthenticated, and this is what the caller is told. -/
structure Rejection where
  message : String
deriving DecidableEq

/-- The header that holds a token. -/
def authorizationHeader : String := "authorization"

/-- The header that holds a device's name. -/
def deviceIdHeader : String := "device-id"

/-- What comes before a token in its header. -/
def bearer : String := "Bearer "

/-- Why a request was not authenticated, on either side. -/
inductive AuthError
  | tokenCreationFailed (why : String)
  | missingDeviceId
  | invalidToken (why : String)
  | unknownDevice
  | registry (why : String)
deriving DecidableEq

/-- The wording of an error. -/
def AuthError.message : AuthError → String
  | tokenCreationFailed why => "failed to create authentication token: " ++ why
  | missingDeviceId => "missing device-id header"
  | invalidToken why => "invalid token: " ++ why
  | unknownDevice => "unknown device"
  | registry why => "device registry: " ++ why

end DeviceAuth
