import DeviceAuth.Token.Envelope

/-!
# Tokens with every check

The keys of a token and its tag are keyed hashes, and a keyed hash may refuse its key. Here sealing
and opening are written with that check wherever it is made. What `Token.encode` and `Token.decode`
leave out is just these checks.
-/

namespace DeviceAuth.Checked

/-- A keyed hash, whose key may have at most 64 bytes. -/
def mac (n : Nat) (hn : n ≤ 64) (key message : Octets) : Except String (Block n) :=
  if key.length ≤ 64 then .ok (Crypto.Blake2b.mac n hn key message) else .error "Invalid Length"

/-- What a keyed hash that refuses its key means for the token. -/
def keySetup (why : String) : TokenError := .keyDerivation ("BLAKE2b key setup: " ++ why)

theorem length_masking_le : 56 ≤ 64 := by decide

theorem length_tag_le : 32 ≤ 64 := by decide

def keysOfNonce (key : DerivedKey) (nonce : Block 32) : Except String Token.Keys := do
  let masking ← mac 56 length_masking_le key.bytes.octets
    (Octets.ofString "paseto-encryption-key" ++ nonce.octets)
  let authentication ← mac 32 length_tag_le key.bytes.octets
    (Octets.ofString "paseto-auth-key-for-aead" ++ nonce.octets)
  return {
    mask := .take 32 masking.octets (by simp)
    maskNonce := ⟨masking.octets.drop 32, by simp⟩
    authentication := authentication }

def encode (key : DerivedKey) (nonce : Block 32) (message footer implicit : Octets) :
    Except String String := do
  let keys ← keysOfNonce key nonce
  let masked := keys.apply message
  let tag ← mac 32 length_tag_le keys.authentication.octets
    (Token.covered nonce masked footer implicit)
  return String.ofList (Token.header ++ Base64.url.encode (nonce.octets ++ masked ++ tag.octets)
    ++ if footer = [] then [] else '.' :: Base64.url.encode footer)

def decode (key : DerivedKey) (token : String) (implicit : Octets) :
    Except TokenError Octets := do
  match Token.Envelope.parse? token with
  | none => throw .malformed
  | some e =>
    let keys ← (keysOfNonce key e.nonce).mapError keySetup
    let tag ← (mac 32 length_tag_le keys.authentication.octets
      (Token.covered e.nonce e.masked e.footer implicit)).mapError keySetup
    if tag = e.tag then return keys.apply e.masked else throw .authentication

end DeviceAuth.Checked
