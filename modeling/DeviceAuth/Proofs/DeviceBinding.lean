import Mathlib.Tactic.Common
import DeviceAuth.Proofs.Verification

/-!
# A token is bound to one device

The name of a device is the last of the pieces that a tag covers, so the tag of one token covers
different bytes for different devices (`Envelope.covers_inj`). A token gets as far as its claims
under the credentials of two devices exactly if it is a collision of tags, and only such a
collision lets in a request whose device was swapped (`bound_to_one_device`).
-/

namespace DeviceAuth

namespace Token

variable {key : DerivedKey} {token : String} {implicit message : Octets} {now : Instant}

/-- The last piece can be told from the framed bytes, however long it is. -/
theorem frame_append_singleton_inj (pieces : List Octets) {p p' : Octets} :
    frame (pieces ++ [p]) = frame (pieces ++ [p']) ↔ p = p' := by
  refine ⟨fun h => ?_, fun h => h ▸ rfl⟩
  simp only [frame, List.length_append, List.length_singleton, List.flatMap_append,
    List.flatMap_singleton, List.append_cancel_left_eq] at h
  exact (List.append_inj h (by simp [lengthOctets])).2

def Envelope.covers (e : Envelope) (id : DeviceId) : Octets :=
  frame [Octets.ofString "v4.local.", e.nonce.octets, e.masked, e.footer, id.octets]

theorem Envelope.covers_eq (e : Envelope) (id : DeviceId) :
    e.covers id = covered e.nonce e.masked e.footer id.octets := by
  have h : String.ofList header = "v4.local." := String.ofList_toList
  rw [covers, covered, h]

theorem Envelope.covers_inj (e : Envelope) {id id' : DeviceId} :
    e.covers id = e.covers id' ↔ id = id' := by
  refine ⟨fun h => ?_, fun h => h ▸ rfl⟩
  have hoctets : id.octets = id'.octets := (frame_append_singleton_inj
    [Octets.ofString "v4.local.", e.nonce.octets, e.masked, e.footer]).1 h
  exact DeviceId.ext (Octets.ofString_injective hoctets)

theorem exists_decode_eq_ok_iff :
    (∃ message, decode key token implicit = .ok message) ↔
      ∃ e : Envelope, token = e.text
        ∧ (Keys.ofNonce key e.nonce).tag e.nonce e.masked e.footer implicit = e.tag := by
  refine ⟨?_, ?_⟩
  · rintro ⟨message, h⟩
    obtain ⟨nonce, footer, rfl⟩ := exists_encode_of_decode h
    exact ⟨_, encode_eq_text key nonce message footer implicit, rfl⟩
  · rintro ⟨e, rfl, ht⟩
    rw [decode_text]
    exact ⟨_, if_pos ht⟩

theorem verify_of_decode_ok (h : decode key token implicit = .ok message) :
    verify key token implicit now =
      (Claims.ofJson message).bind fun c => (c.validateAt now).map fun _ => c := by
  rw [verify, h]
  simp only [bind, Except.bind]
  rcases Claims.ofJson message with e | c
  · rfl
  · exact Except.bind_pure_const _ _

theorem verify_of_decode_error {e : TokenError} (h : decode key token implicit = .error e) :
    verify key token implicit now = .error e := by
  rw [verify, h]
  rfl

end Token

theorem Claims.ofJson_eq_error {bs : Octets} {e : TokenError} (h : ofJson bs = .error e) :
    ∃ fault, e = .claims fault := by
  unfold ofJson at h
  split at h
  · cases h
  · exact ⟨_, (Except.error.inj h).symm⟩

theorem Claims.validateAt_eq_error {c : Claims} {now : Instant} {e : TokenError}
    (h : c.validateAt now = .error e) : e = .expired ∨ e = .notYetValid ∨ e = .issuedInFuture := by
  unfold validateAt at h
  split_ifs at h <;> cases h <;> simp

namespace Token

variable {key : DerivedKey} {token : String} {implicit : Octets} {now : Instant}

/-- A token that opens is refused for its claims, if at all. -/
theorem error_of_decode_ok {message : Octets} {e : TokenError}
    (hd : decode key token implicit = .ok message) (hv : verify key token implicit now = .error e) :
    (∃ fault, e = .claims fault) ∨ e = .expired ∨ e = .notYetValid ∨ e = .issuedInFuture := by
  rw [verify_of_decode_ok hd] at hv
  rcases hc : Claims.ofJson message with e' | c
  · rw [hc] at hv
    obtain rfl := Except.error.inj hv
    exact .inl (Claims.ofJson_eq_error hc)
  · rw [hc] at hv
    rcases ha : c.validateAt now with e' | u
    · rw [Except.bind, ha] at hv
      obtain rfl := Except.error.inj hv
      exact .inr (Claims.validateAt_eq_error ha)
    · rw [Except.bind, ha] at hv
      cases hv

theorem verify_passes_iff :
    (verify key token implicit now ≠ .error .malformed
        ∧ verify key token implicit now ≠ .error .authentication)
      ↔ ∃ message, decode key token implicit = .ok message := by
  rcases hd : decode key token implicit with e | message
  · rw [verify_of_decode_error hd]
    rcases decode_eq_error_iff.1 hd with ⟨-, rfl⟩ | ⟨-, rfl⟩ <;> simp
  · refine ⟨fun _ => ⟨message, rfl⟩, fun _ => ⟨fun hv => ?_, fun hv => ?_⟩⟩ <;>
      simpa using error_of_decode_ok hd hv

end Token

namespace Credential

variable {c c' : Credential} {token : String} {now : Instant}

/-- The token gets as far as its claims: it is neither malformed nor refused as not authentic. -/
def Authenticates (c : Credential) (token : String) (now : Instant) : Prop :=
  c.verify token now ≠ .error .malformed ∧ c.verify token now ≠ .error .authentication

theorem tag_le_digest : 32 ≤ 64 := by decide

/-- The tag that a token must have for a credential. -/
def tagFor (c : Credential) (e : Token.Envelope) : Block 32 :=
  Crypto.Blake2b.mac 32 tag_le_digest
    (Token.Keys.ofNonce c.tokenKey e.nonce).authentication.octets (e.covers c.device)

/-- The tag of a token is that of two byte strings that differ, each what the tag covers for one
of two credentials and under that credential's key. -/
structure Collision (c c' : Credential) (e : Token.Envelope) : Prop where
  covers_ne : e.covers c.device ≠ e.covers c'.device
  tag_eq : c.tagFor e = e.tag
  tag_eq' : c'.tagFor e = e.tag

theorem authenticates_iff :
    c.Authenticates token now ↔ ∃ e : Token.Envelope, token = e.text ∧ c.tagFor e = e.tag := by
  rw [Authenticates, verify, Token.verify_passes_iff, Token.exists_decode_eq_ok_iff]
  simp only [tagFor, Token.Envelope.covers_eq, Token.Keys.tag]

/-- A token has one layout, so two credentials that it is authentic for agree on its parts. -/
theorem authenticates_both_iff {now' : Instant} :
    c.Authenticates token now ∧ c'.Authenticates token now' ↔
      ∃ e : Token.Envelope, token = e.text ∧ c.tagFor e = e.tag ∧ c'.tagFor e = e.tag := by
  rw [authenticates_iff, authenticates_iff]
  refine ⟨?_, ?_⟩
  · rintro ⟨⟨e, rfl, h⟩, e', he', h'⟩
    obtain rfl := Token.Envelope.text_injective he'
    exact ⟨e, rfl, h, h'⟩
  · rintro ⟨e, rfl, h, h'⟩
    exact ⟨⟨e, rfl, h⟩, e, rfl, h'⟩

theorem collision_iff {now' : Instant} :
    c.device ≠ c'.device ∧ c.Authenticates token now ∧ c'.Authenticates token now' ↔
      ∃ e : Token.Envelope, token = e.text ∧ Collision c c' e := by
  rw [authenticates_both_iff]
  refine ⟨?_, ?_⟩
  · rintro ⟨hne, e, ht, h, h'⟩
    exact ⟨e, ht, mt e.covers_inj.1 hne, h, h'⟩
  · rintro ⟨e, ht, hne, h, h'⟩
    exact ⟨mt e.covers_inj.2 hne, e, ht, h, h'⟩

theorem authenticates_of_verify {claims : Claims} (h : c.verify token now = .ok claims) :
    c.Authenticates token now := by
  rw [Authenticates, h]
  simp

end Credential

namespace Authority

/-- A token that a request was let in with is authentic for the device that it was let in as. -/
theorem authenticates_of_authenticate {a : Authority} {registry : Registry} {now : Instant}
    {h : Headers} {id : DeviceId} {token : String} (ht : bearerToken? h = some token)
    (hid : (a.authenticate registry now h).result = .ok id) :
    Credential.Authenticates ⟨a.deviceRoot id, id⟩ token now := by
  obtain ⟨hi, -⟩ := authenticate_eq_ok_iff.1 hid
  obtain ⟨c, token', claims, hc, ht', -, hv⟩ := identify_eq_ok_iff.1 hi
  rw [credential_text] at hc
  obtain rfl := Except.ok.inj hc
  obtain rfl := Option.some.inj (ht.symm.trans ht')
  exact Credential.authenticates_of_verify hv

end Authority

/-- For two credentials of different devices, whatever their roots are, a token gets as far as its
claims under both exactly if its tag is a collision: what it covers for the one and for the other
differs, and has this one tag under the keys of both. So a request with a token that is authentic
for one device is let in as another only through such a collision. -/
theorem Credential.bound_to_one_device (c : Credential) (token : String) :
    (∀ (c' : Credential) (now now' : Instant),
        c.device ≠ c'.device ∧ c.Authenticates token now ∧ c'.Authenticates token now' ↔
          ∃ e : Token.Envelope, token = e.text ∧ Collision c c' e)
      ∧ ∀ (a : Authority) (registry : Registry) (now now' : Instant) (h : Headers) (id : DeviceId),
        Authority.bearerToken? h = some token → c.Authenticates token now' →
        (a.authenticate registry now h).result = .ok id →
          c.device = id
            ∨ ∃ e : Token.Envelope, token = e.text ∧ Collision c ⟨a.deviceRoot id, id⟩ e := by
  refine ⟨fun c' now now' => collision_iff, fun a registry now now' h id ht hc hid => ?_⟩
  rcases eq_or_ne c.device id with he | hne
  · exact .inl he
  · exact .inr (collision_iff.1 ⟨hne, hc, Authority.authenticates_of_authenticate ht hid⟩)

end DeviceAuth
