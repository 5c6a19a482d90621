import DeviceAuth.Random
import DeviceAuth.Time.Timestamp
import DeviceAuth.Token.Envelope

/-!
# Claims of a token

What a token says: from when to when it is valid, and when it was issued. A token is valid for
thirty seconds from the second it is issued in. Claims are written as a JSON object of three
timestamps, to the whole second.
-/

namespace DeviceAuth

/-- Until when and from when a token is valid, and when it was issued. -/
@[ext] structure Claims where
  expiration : Instant
  issuedAt : Instant
  notBefore : Instant
deriving DecidableEq

namespace Claims

/-- How many seconds a token is valid for. -/
def lifetime : Int := 30

/-- The claims of a token issued at an instant, if its expiration lies within time. -/
def issuedAt? (now : Instant) : Option Claims := do
  let start := now.wholeSecond
  let expiration ← start.addSeconds? lifetime
  some ⟨expiration, start, start⟩

/-- The claims hold at an instant, or the first of the reasons why they do not. -/
def validateAt (c : Claims) (now : Instant) : Except TokenError Unit :=
  if c.expiration < now then .error .expired
  else if now < c.notBefore then .error .notYetValid
  else if now < c.issuedAt then .error .issuedInFuture
  else .ok ()

/-- The members of claims, as they are written. -/
def members (c : Claims) : List (String × String) :=
  [("exp", Timestamp.write c.expiration), ("iat", Timestamp.write c.issuedAt),
    ("nbf", Timestamp.write c.notBefore)]

/-- Claims on one line. -/
def toJson (c : Claims) : String := String.ofList (Json.object c.members)

/-- Claims, a member to a line. -/
def toJsonLines (c : Claims) : String := String.ofList (Json.objectLines c.members)

/-- Claims as records. -/
def schema : Json.Schema Instant Claims where
  fields := ["exp", "iat", "nbf"]
  value? s := Timestamp.read? s.toList
  build member := do
    return { expiration := ← member "exp", issuedAt := ← member "iat", notBefore := ← member "nbf" }

/-- The claims that bytes hold. -/
def ofJson (bs : Octets) : Except TokenError Claims :=
  match schema.read bs with
  | .ok c => .ok c
  | .error fault => .error (.claims fault)

end Claims

namespace Token

variable {ρ : Type}

/-- A token with these claims, under a nonce from a source. -/
def issue (R : RandomSource ρ) (key : DerivedKey) (c : Claims) (implicit : Octets) (r : ρ) :
    Except TokenError String × ρ :=
  match R.fill 32 r with
  | (.ok nonce, r) => (.ok (encode key nonce (Octets.ofString c.toJson) [] implicit), r)
  | (.error why, r) => (.error (.creation ("nonce generation: " ++ why)), r)

/-- The claims of a token that is valid at an instant. -/
def verify (key : DerivedKey) (token : String) (implicit : Octets) (now : Instant) :
    Except TokenError Claims := do
  let claims ← Claims.ofJson (← decode key token implicit)
  claims.validateAt now
  return claims

end Token

end DeviceAuth
