import Mathlib.Tactic.Common
import DeviceAuth.Proofs.Verification

/-!
# What is asked of the registry, and what a refusal tells

The registry is asked about one device, the one that the request names, if the request's token
verifies for it, and about none otherwise; a verdict depends on the registry in nothing else. The
sender of a refused request is told the same whatever the reason is (`registry_secluded`).
-/

namespace DeviceAuth.Authority

variable {a : Authority} {registry registry' : Registry} {now : Instant} {h : Headers}
  {id : DeviceId}

/-- The first name in the headers is the device's, and the first token in them verifies under that
device's credential. -/
def Verifies (a : Authority) (now : Instant) (h : Headers) (id : DeviceId) : Prop :=
  (h.values deviceIdHeader).head? = some id.octets
    ∧ ∃ c token claims, a.credential id.text = .ok c
      ∧ (h.values authorizationHeader).head? = some (Octets.ofString (bearer ++ token))
      ∧ c.verify token now = .ok claims

/-- A token that verifies is printable, so it is read from its header. -/
theorem bearerToken?_of_verify {c : Credential} {token : String} {claims : Claims}
    (hv : c.verify token now = .ok claims) :
    bearerToken? h = some token ↔
      (h.values authorizationHeader).head? = some (Octets.ofString (bearer ++ token)) := by
  obtain ⟨nonce, footer, message, rfl, -⟩ := verify_eq_ok_iff.1 hv
  rw [bearerToken?_eq_some_iff, Headers.first?_eq_some_iff, and_iff_left]
  exact printable_bearer.append Token.printable_encode

theorem identify_eq_ok_iff_verifies : a.identify now h = .ok id ↔ a.Verifies now h id := by
  rw [identify_eq_ok_iff, Verifies]
  refine ⟨?_, ?_⟩
  · rintro ⟨c, token, claims, hc, ht, hd, hv⟩
    exact ⟨deviceName?_eq_text_iff.1 hd, c, token, claims, hc, (bearerToken?_of_verify hv).1 ht, hv⟩
  · rintro ⟨hd, c, token, claims, hc, ht, hv⟩
    exact ⟨c, token, claims, hc, (bearerToken?_of_verify hv).2 ht, deviceName?_eq_text_iff.2 hd, hv⟩

theorem exists_identify_eq_error (hn : ∀ id, ¬ a.Verifies now h id) :
    ∃ e, a.identify now h = .error e := by
  rcases hi : a.identify now h with e | id
  · exact ⟨e, rfl⟩
  · exact absurd (identify_eq_ok_iff_verifies.1 hi) (hn id)

theorem authenticate_of_identify_error {e : AuthError} (he : a.identify now h = .error e) :
    a.authenticate registry now h = ⟨.error e, []⟩ := by
  rw [authenticate_eq, he]

theorem lookups_of_verifies (hv : a.Verifies now h id) :
    (a.authenticate registry now h).lookups = [id] := by
  rw [authenticate_eq, identify_eq_ok_iff_verifies.2 hv]

/-- Registries that agree on the devices that were looked up lead to the same verdict. -/
theorem authenticate_congr_registry
    (hr : ∀ id ∈ (a.authenticate registry now h).lookups, registry id = registry' id) :
    a.authenticate registry now h = a.authenticate registry' now h := by
  rcases hi : a.identify now h with e | id
  · rw [authenticate_of_identify_error hi, authenticate_of_identify_error hi]
  · have hid : registry id = registry' id := by
      apply hr
      rw [lookups_of_verifies (identify_eq_ok_iff_verifies.1 hi)]
      exact List.mem_singleton_self id
    simp only [authenticate_eq, hi, hid]

/-- A request that is let in keeps its headers, and its device is noted on it; nothing but that it
was refused is told of any other. -/
theorem receive_eq (a : Authority) (registry : Registry) (now : Instant) (request : Request) :
    a.receive registry now request =
      ((match (a.authenticate registry now request.headers).result with
        | .ok id => .ok ⟨request.headers, some id⟩
        | .error _ => .error ⟨"unauthenticated"⟩),
        (a.authenticate registry now request.headers).lookups) := by
  unfold receive receiveWith authenticate
  rw [StateT.run_bind]
  rcases (a.authenticateWith registry.ask now request.headers).run [] with ⟨e | id, lookups⟩ <;> rfl

theorem receive_eq_ok_iff {request request' : Request} :
    (a.receive registry now request).1 = .ok request' ↔
      ∃ id, (a.authenticate registry now request.headers).result = .ok id
        ∧ request' = ⟨request.headers, some id⟩ := by
  rw [receive_eq]
  rcases (a.authenticate registry now request.headers).result with e | id <;> simp [eq_comm]

theorem receive_eq_error_iff {request : Request} {r : Rejection} :
    (a.receive registry now request).1 = .error r ↔
      (∃ e, (a.authenticate registry now request.headers).result = .error e)
        ∧ r = ⟨"unauthenticated"⟩ := by
  rw [receive_eq]
  rcases (a.authenticate registry now request.headers).result with e | id <;> simp [eq_comm]

/-- Whatever the seed, the clock and the headers are, the registry is asked about the device that
the request names, once, if the request's token verifies for it, and otherwise not at all: then the
error is the same whatever the registry is. In nothing but the answers that it gave does the
registry count. A request is let in if it is authenticated, with that device noted on it and its
headers as they were, and every request that is refused is refused in the same words. -/
theorem registry_secluded (a : Authority) (now : Instant) (request : Request) :
    (∀ registry id, a.Verifies now request.headers id →
        (a.authenticate registry now request.headers).lookups = [id]
          ∧ (a.receive registry now request).2 = [id])
      ∧ ((∀ id, ¬ a.Verifies now request.headers id) →
        ∃ e, ∀ registry, a.authenticate registry now request.headers = ⟨.error e, []⟩
          ∧ a.receive registry now request = (.error ⟨"unauthenticated"⟩, []))
      ∧ (∀ registry registry' : Registry,
        (∀ id ∈ (a.authenticate registry now request.headers).lookups,
          registry id = registry' id) →
        a.authenticate registry now request.headers
          = a.authenticate registry' now request.headers)
      ∧ (∀ registry request', (a.receive registry now request).1 = .ok request' ↔
        ∃ id, (a.authenticate registry now request.headers).result = .ok id
          ∧ request' = ⟨request.headers, some id⟩)
      ∧ ∀ registry r, (a.receive registry now request).1 = .error r ↔
        (∃ e, (a.authenticate registry now request.headers).result = .error e)
          ∧ r = ⟨"unauthenticated"⟩ := by
  refine ⟨fun registry id hv => ⟨lookups_of_verifies hv, ?_⟩, fun hn => ?_,
    fun registry registry' hr => authenticate_congr_registry hr,
    fun registry request' => receive_eq_ok_iff, fun registry r => receive_eq_error_iff⟩
  · rw [receive_eq]
    exact lookups_of_verifies hv
  · obtain ⟨e, he⟩ := exists_identify_eq_error hn
    refine ⟨e, fun registry => ⟨authenticate_of_identify_error he, ?_⟩⟩
    rw [receive_eq, authenticate_of_identify_error he]

end DeviceAuth.Authority
