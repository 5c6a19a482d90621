import DeviceAuth.Crypto.Blake2b
import DeviceAuth.Crypto.XChaCha20
import DeviceAuth.Text.Affix
import DeviceAuth.Text.Base64
import DeviceAuth.Token.Error
import DeviceAuth.Token.Framing

/-!
# Sealed tokens

A token of PASETO version 4 for local use: the nonce, the masked message and a tag in URL-safe
base64 after a fixed start, then, if there is one, a footer that anyone can read. The tag also
covers the footer and an implicit assertion, which is not part of the token but has to be the same
when it is opened. `encode` writes tokens and `decode` reads them; `decode` accepts nothing but
what `encode` writes.
-/

namespace DeviceAuth.Token

/-- How every token starts. -/
def header : List Char := "v4.local.".toList

/-- What one nonce makes of a key. -/
structure Keys where
  mask : Block 32
  maskNonce : Block 24
  authentication : Block 32

/-- The keys for one token. -/
def Keys.ofNonce (key : DerivedKey) (nonce : Block 32) : Keys :=
  let masking := Crypto.Blake2b.mac 56 (by decide) key.bytes.octets
    (Octets.ofString "paseto-encryption-key" ++ nonce.octets)
  { mask := .take 32 masking.octets (by simp)
    maskNonce := ⟨masking.octets.drop 32, by simp⟩
    authentication := Crypto.Blake2b.mac 32 (by decide) key.bytes.octets
      (Octets.ofString "paseto-auth-key-for-aead" ++ nonce.octets) }

/-- A message masked, or a masked message unmasked. -/
def Keys.apply (keys : Keys) (message : Octets) : Octets :=
  Crypto.XChaCha20.mask keys.mask keys.maskNonce message

/-- What a tag covers. -/
def covered (nonce : Block 32) (masked footer implicit : Octets) : Octets :=
  frame [Octets.ofString (String.ofList header), nonce.octets, masked, footer, implicit]

/-- The tag of a token. -/
def Keys.tag (keys : Keys) (nonce : Block 32) (masked footer implicit : Octets) : Block 32 :=
  Crypto.Blake2b.mac 32 (by decide) keys.authentication.octets
    (covered nonce masked footer implicit)

/-- A token around a message. -/
def encode (key : DerivedKey) (nonce : Block 32) (message footer implicit : Octets) : String :=
  let keys := Keys.ofNonce key nonce
  let masked := keys.apply message
  let body := nonce.octets ++ masked ++ (keys.tag nonce masked footer implicit).octets
  String.ofList (header ++ Base64.url.encode body
    ++ if footer = [] then [] else '.' :: Base64.url.encode footer)

/-- A token taken apart. -/
structure Envelope where
  nonce : Block 32
  masked : Octets
  tag : Block 32
  footer : Octets

/-- The footer in what follows a token's body: nothing, or a point and a footer that is not
empty. -/
def footer? : List Char → Option Octets
  | [] => some []
  | [_] => none
  | _ :: footer => Base64.url.decode? footer

/-- The parts of a token. -/
def Envelope.parse? (token : String) : Option Envelope := do
  let s ← Text.after? header token.toList
  let footer ← footer? (s.dropWhile (· ≠ '.'))
  let body ← Base64.url.decode? (s.takeWhile (· ≠ '.'))
  if h : 64 ≤ body.length then
    some
      { nonce := .take 32 body (by omega)
        masked := (body.drop 32).take (body.length - 64)
        tag := ⟨body.drop (body.length - 32), by simp; omega⟩
        footer := footer }
  else none

/-- The message in a token. -/
def decode (key : DerivedKey) (token : String) (implicit : Octets) : Except TokenError Octets :=
  match Envelope.parse? token with
  | none => .error .malformed
  | some e =>
    let keys := Keys.ofNonce key e.nonce
    if keys.tag e.nonce e.masked e.footer implicit = e.tag then .ok (keys.apply e.masked)
    else .error .authentication

end DeviceAuth.Token
