import DeviceAuth.Request.Signing
import DeviceAuth.Token.Checked

/-!
# Signing with every check

What a device has to make for a request are a key, claims, a token and two header values. Each of
these can be refused where its input is out of bounds, and then the request is not sent. Here every
such check stands where it is made, and `Fault` has one case for each.
-/

namespace DeviceAuth.Checked

variable {ρ σ : Type}

/-- Where signing a request came to its end. -/
inductive Fault
  | tokenKey (why : String)
  /-- The token would expire after the end of time. -/
  | outOfTime
  | encoding (why : String)
  | nonce (why : String)
  | keyedHash (why : String)
  | headerValue (why : String)
deriving DecidableEq

/-- What the caller is told. -/
def Fault.error : Fault → SigningError
  | outOfTime => .outOfTime
  | tokenKey why =>
    rejected (TokenError.ofKeyError (.keyDerivationFailed ("HKDF expand: " ++ why))).message
  | encoding why => rejected (TokenError.creation ("encoding claims: " ++ why)).message
  | nonce why => rejected (TokenError.creation ("nonce generation: " ++ why)).message
  | keyedHash why => rejected (keySetup why).message
  | headerValue why => rejected why
where
  rejected (why : String) : SigningError :=
    .rejected ⟨(AuthError.tokenCreationFailed why).message⟩

/-! ## The token's key -/

/-- Blocks of an expansion: each is made of the one before it, the purpose and its number. -/
def expand (key info : Octets) : Nat → Nat → Octets → Octets
  | 0, _, _ => []
  | more + 1, number, previous =>
    let block := Crypto.hmac key (previous ++ info ++ [UInt8.ofNat number])
    block.octets ++ expand key info more (number + 1) block.octets

theorem length_expand (key info : Octets) : ∀ (count number : Nat) (previous : Octets),
    (expand key info count number previous).length = 32 * count
  | 0, _, _ => rfl
  | count + 1, number, previous => by
    simp only [expand, List.length_append, Block.length_octets, length_expand key info count]
    omega

/-- HKDF-SHA256 to `n` bytes. The blocks are numbered in one byte, so there are at most 255. -/
def hkdf (n : Nat) (material info : Octets) : Except String (Block n) :=
  if h : n ≤ 255 * 32 then
    .ok (.take n (expand (Crypto.hmac [] material).octets info ((n + 31) / 32) 1 [])
      (by rw [length_expand]; omega))
  else .error "invalid number of blocks, too large output"

def derive (root : RootKey) (domain : String) : Except String DerivedKey := do
  return ⟨← hkdf 32 root.bytes.octets (Octets.ofString domain)⟩

/-! ## The claims -/

/-- What can be written to, one piece after another. -/
structure Sink (σ : Type) where
  write : Octets → σ → Except String σ

def Sink.memory : Sink Octets := ⟨fun piece written => .ok (written ++ piece)⟩

/-- Pieces written in turn, up to the first that is refused. -/
def Sink.writeAll (S : Sink σ) (s : σ) (pieces : List Octets) : Except String σ :=
  pieces.foldlM (fun s piece => S.write piece s) s

/-- The pieces in which an object is written. -/
def objectPieces (members : List (String × String)) : List (List Char) :=
  let member := fun (name, value) => Json.quote name ++ ':' :: Json.quote value
  ['\x7b'] :: (members.map member).intersperse [','] ++ [['\x7d']]

def encodeClaims (c : Claims) : Except String Octets :=
  Sink.memory.writeAll [] ((objectPieces c.members).map fun s => Octets.ofString (String.ofList s))

/-! ## The request -/

def headerValue (s : String) : Except String Octets :=
  match Headers.text? (Octets.ofString s) with
  | some _ => .ok (Octets.ofString s)
  | none => .error "failed to parse metadata value"

/-- What has to be there before a nonce is drawn: the key, and the claims in bytes. -/
def prepare (c : Credential) (now : Instant) : Except Fault (DerivedKey × Octets) := do
  let key ← (derive c.root tokenDomain).mapError .tokenKey
  match Claims.issuedAt? now with
  | none => throw .outOfTime
  | some claims =>
    let message ← (encodeClaims claims).mapError .encoding
    return (key, message)

/-- What is done once there is a nonce: the token is sealed, and put on the request with the
device's name. -/
def complete (device : DeviceId) (request : Request) (key : DerivedKey) (message : Octets)
    (nonce : Block 32) : Except Fault Request := do
  let token ← (encode key nonce message [] device.octets).mapError .keyedHash
  let authorization ← (headerValue (bearer ++ token)).mapError .headerValue
  let name ← (headerValue device.text).mapError .headerValue
  return { request with
    headers :=
      (request.headers.insert authorizationHeader authorization).insert deviceIdHeader name }

/-- A request signed with a credential at an instant, or where signing it came to its end. -/
def authenticate (R : RandomSource ρ) (c : Credential) (now : Instant) (request : Request)
    (r : ρ) : Except Fault Request × ρ :=
  match prepare c now with
  | .error fault => (.error fault, r)
  | .ok (key, message) =>
    match R.fill 32 r with
    | (.error why, r) => (.error (.nonce why), r)
    | (.ok nonce, r) => (complete c.device request key message nonce, r)

def sign (R : RandomSource ρ) (c : Credential) (now : Instant) (request : Request) (r : ρ) :
    Except SigningError Request × ρ :=
  let (result, r) := authenticate R c now request r
  (result.mapError Fault.error, r)

end DeviceAuth.Checked
