import DeviceAuth.Json.Record
import DeviceAuth.Key

/-!
# What can go wrong with a token
-/

namespace DeviceAuth

/-- Why a token was not made or not accepted. -/
inductive TokenError
  | creation (why : String)
  | keyDerivation (why : String)
  | malformed
  | authentication
  | claims (fault : Json.Fault)
  | expired
  | notYetValid
  | issuedInFuture
deriving DecidableEq

namespace TokenError

/-- The wording of an error. Of bad claims it says only which member is missing or repeated. -/
def message : TokenError → String
  | creation why => "token creation failed: " ++ why
  | keyDerivation why => "token key derivation failed: " ++ why
  | malformed => "malformed token"
  | authentication => "token authentication failed"
  | claims fault => fault.append "invalid token claims"
  | expired => "token expired"
  | notYetValid => "token not yet valid"
  | issuedInFuture => "token issued in the future"

/-- An error with keys, where a token was wanted. -/
def ofKeyError (e : KeyError) : TokenError := keyDerivation e.message

end TokenError

end DeviceAuth
