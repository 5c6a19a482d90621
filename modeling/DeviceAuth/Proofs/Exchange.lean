import Mathlib.Tactic.Common
import DeviceAuth.Proofs.Verification
import DeviceAuth.Request.Signing

/-!
# From a device to its server

A request signed by a device is believed by the server with the same seed from the second it was
signed in to thirty seconds later, whatever headers it had before (`sign_then_authenticate`). Only
in a leap second that ends no minute it is too early to believe what was signed in it.
-/

namespace DeviceAuth

variable {ρ : Type} {R : RandomSource ρ} {r r' : ρ} {nonce : Block 32} {c : Credential}
  {now expiration : Instant}

/-- The credential of a device, from the root that its server derives for it. -/
theorem Credential.ofParts_deviceRoot (a : Authority) (id : DeviceId) :
    ofParts (a.deviceRoot id).bytes.octets id.text = .ok ⟨a.deviceRoot id, id⟩ :=
  ofParts_text (a.deviceRoot id) id

/-- The token minted under a nonce. -/
theorem Credential.mint_of_fill (hfill : R.fill 32 r = (.ok nonce, r'))
    (hexp : now.wholeSecond.addSeconds? Claims.lifetime = some expiration) :
    c.mint R now r = (.ok (Token.encode c.tokenKey nonce
      (Octets.ofString (Claims.toJson ⟨expiration, now.wholeSecond, now.wholeSecond⟩)) []
      c.device.octets), r') := by
  simp only [mint, Claims.issuedAt?_eq_some hexp, Token.issue, hfill]
  rfl

theorem Request.sign_of_fill (request : Request) (hfill : R.fill 32 r = (.ok nonce, r'))
    (hexp : now.wholeSecond.addSeconds? Claims.lifetime = some expiration) :
    ∃ request', request.sign R c now r = (.ok request', r') := by
  rw [sign, Credential.mint_of_fill hfill hexp]
  exact ⟨_, rfl⟩

namespace Request

variable (request : Request) (token : String) (id : DeviceId)

theorem values_authorization_withToken :
    (request.withToken token id).headers.values authorizationHeader
      = [Octets.ofString (bearer ++ token)] := by
  rw [withToken, Headers.values_insert_of_ne (by decide), Headers.values_insert]

theorem values_deviceId_withToken :
    (request.withToken token id).headers.values deviceIdHeader = [id.octets] := by
  rw [withToken, Headers.values_insert]

end Request

namespace Authority

/-- A request with a token is identified as the token verifies. -/
theorem identify_withToken (a : Authority) (request : Request) {token : String}
    (htoken : Headers.Printable token) (id : DeviceId) (now : Instant) :
    a.identify now (request.withToken token id).headers =
      ((Credential.verify ⟨a.deviceRoot id, id⟩ token now).mapError (.invalidToken ·.message)).map
        fun _ => id := by
  have ht : bearerToken? (request.withToken token id).headers = some token := by
    rw [bearerToken?_eq_some_iff, Headers.first?_eq_some_iff,
      Request.values_authorization_withToken]
    exact ⟨rfl, printable_bearer.append htoken⟩
  have hd : deviceName? (request.withToken token id).headers = some id.text := by
    rw [deviceName?_eq_text_iff, Request.values_deviceId_withToken]
    rfl
  simp only [identify, ht, hd, credential_text]
  exact Except.bind_pure_const _ _

section Signed

variable {a : Authority} {request request' : Request} {id : DeviceId}
  (hfill : R.fill 32 r = (.ok nonce, r'))
  (hexp : now.wholeSecond.addSeconds? Claims.lifetime = some expiration)
  (hstart : now.wholeSecond.HasFourDigitYear) (hend : expiration.HasFourDigitYear)
  (hsign : request.sign R ⟨a.deviceRoot id, id⟩ now r = (.ok request', r'))
  (registry : Registry) {s : Instant}
include hfill hexp hstart hend hsign

/-- What becomes of a freshly signed request. Its token is refused outside its window, and inside it
all is up to the registry. -/
theorem authenticate_signed (s : Instant) :
    (a.authenticate registry s request'.headers).result =
      if expiration < s then .error (.invalidToken TokenError.expired.message)
      else if s < now.writtenSecond then .error (.invalidToken TokenError.notYetValid.message)
      else match registry id with
        | .ok true => .ok id
        | .ok false => .error .unknownDevice
        | .error why => .error (.registry why) := by
  have hread : Claims.Readable ⟨expiration, now.wholeSecond, now.wholeSecond⟩ :=
    ⟨hend, hstart, hstart⟩
  rw [Request.sign, Credential.mint_of_fill hfill hexp] at hsign
  obtain rfl := Except.ok.inj (Prod.ext_iff.1 hsign).1
  rw [authenticate_eq, identify_withToken a request Token.printable_encode, Credential.verify,
    Token.verify_encode, if_pos hread, Claims.writtenSeconds_issued hexp, Claims.validateAt_issued]
  split_ifs <;> rfl

/-- The window begins with the second of signing, unless that is a leap second off the minute and
the server is still in it. -/
theorem authenticate_signed_of_not_same
    (hs : ¬ (now.OffMinute ∧ s.wholeSecond = now.wholeSecond)) :
    (a.authenticate registry s request'.headers).result =
      if expiration < s then .error (.invalidToken TokenError.expired.message)
      else if s < now.wholeSecond then .error (.invalidToken TokenError.notYetValid.message)
      else match registry id with
        | .ok true => .ok id
        | .ok false => .error .unknownDevice
        | .error why => .error (.registry why) := by
  have hstarted : s < now.writtenSecond ↔ s < now.wholeSecond := by
    rw [← not_le, Instant.writtenSecond_le_iff, and_iff_left hs, not_le]
  simp only [authenticate_signed hfill hexp hstart hend hsign, hstarted]

theorem authenticate_signed_of_same (hoff : now.OffMinute)
    (hs : s.wholeSecond = now.wholeSecond) :
    (a.authenticate registry s request'.headers).result
      = .error (.invalidToken TokenError.notYetValid.message) := by
  have hearly : s < now.writtenSecond := by
    rw [← not_le, Instant.writtenSecond_le_iff]
    exact fun h => h.2 ⟨hoff, hs⟩
  have hseconds := (Instant.wholeSecond_eq_iff.1 hs).1
  have hlater : expiration.seconds = now.seconds + 30 :=
    ((Instant.addSeconds?_eq_some_iff now.isWhole_wholeSecond (by decide)).1 hexp).1
  have hnot : ¬ expiration < s := by
    rw [Instant.lt_iff]
    omega
  rw [authenticate_signed hfill hexp hstart hend hsign, if_neg hnot, if_pos hearly]

end Signed

end Authority

end DeviceAuth
