import Mathlib.Tactic.Common
import DeviceAuth.Proofs.Claims
import DeviceAuth.Proofs.Envelope
import DeviceAuth.Proofs.Headers
import DeviceAuth.Request.Verification

/-!
# Which requests are believed

A request is believed exactly if its first token was sealed, with claims that hold, under the key of
the device that it first names, and the registry knows that device (`accepts_exactly`). Other
values and other headers are never looked at.
-/

namespace DeviceAuth

open Headers (Printable)

/-! ## Tokens and names are texts -/

theorem Token.printable_encode {key : DerivedKey} {nonce : Block 32}
    {message footer implicit : Octets} :
    Printable (encode key nonce message footer implicit) := by
  have hdigit : ∀ n < 64, 0x20 ≤ (Base64.url.digit n).toNat
      ∧ (Base64.url.digit n).toNat ≤ 0x7e := by decide
  have hencode : ∀ (bs : Octets) (c : Char), c ∈ Base64.url.encode bs →
      0x20 ≤ c.toNat ∧ c.toNat ≤ 0x7e := by
    intro bs c hc
    rcases Base64.Alphabet.mem_encode hc with ⟨n, hn, rfl⟩ | ⟨hp, -⟩
    · exact hdigit n hn
    · exact absurd hp (by decide)
  have hheader : Printable (String.ofList header) := by decide
  intro c hc
  rw [encode_eq_text, Envelope.text, write, String.toList_ofList, List.mem_append,
    List.mem_append] at hc
  rcases hc with (hc | hc) | hc
  · exact hheader c hc
  · exact .inr (hencode _ c hc)
  · unfold footerText at hc
    split_ifs at hc
    · exact absurd hc List.not_mem_nil
    · rcases List.mem_cons.1 hc with rfl | hc
      · decide
      · exact .inr (hencode _ c hc)

namespace DeviceId

theorem exists_allowed_of_fits : ∀ {layout : List (Char → Bool)} {s : List Char},
    fits layout s = true → ∀ c ∈ s, ∃ allowed ∈ layout, allowed c = true
  | [], [], _, _, hc => absurd hc List.not_mem_nil
  | allowed :: layout, d :: s, h, c, hc => by
    obtain ⟨hd, hs⟩ := Bool.and_eq_true_iff.1 h
    rcases List.mem_cons.1 hc with rfl | hc
    · exact ⟨allowed, List.mem_cons_self, hd⟩
    · obtain ⟨a, ha, hac⟩ := exists_allowed_of_fits hs c hc
      exact ⟨a, List.mem_cons_of_mem _ ha, hac⟩

/-- What stands in a name is a digit or a hyphen; the version is a digit, too. -/
theorem isDigit_or_hyphen {allowed : Char → Bool} (ha : allowed ∈ layout) {c : Char}
    (hc : allowed c = true) : Hex.isDigit c = true ∨ c = '-' := by
  have hcases : allowed = Hex.isDigit ∨ allowed = (· == '-') ∨ allowed = (· == '4') := by
    simp only [layout, List.mem_append, List.mem_replicate, List.mem_singleton] at ha
    tauto
  rcases hcases with rfl | rfl | rfl
  · exact .inl hc
  · exact .inr (eq_of_beq hc)
  · rw [eq_of_beq hc]
    exact .inl rfl

theorem printable_of_isDigit {c : Char} (h : Hex.isDigit c = true) :
    0x20 ≤ c.toNat ∧ c.toNat ≤ 0x7e := by
  have between : ∀ {a b : Char}, a ≤ c ∧ c ≤ b → 0x20 ≤ a.toNat → b.toNat ≤ 0x7e →
      0x20 ≤ c.toNat ∧ c.toNat ≤ 0x7e := fun h ha hb => ⟨le_trans ha h.1, le_trans h.2 hb⟩
  simp only [Hex.isDigit, Hex.value?] at h
  split_ifs at h with h₁ h₂ h₃
  · exact between h₁ (by decide) (by decide)
  · exact between h₂ (by decide) (by decide)
  · exact between h₃ (by decide) (by decide)
  · cases h

theorem printable_text (id : DeviceId) : Printable id.text := by
  intro c hc
  obtain ⟨allowed, ha, hac⟩ := exists_allowed_of_fits id.valid c hc
  rcases isDigit_or_hyphen ha hac with h | rfl
  · exact .inr (printable_of_isDigit h)
  · decide

theorem text_ne_empty (id : DeviceId) : id.text ≠ "" := by
  intro h
  have := id.valid
  rw [h] at this
  cases this

theorem parse?_eq_some_iff {s : String} {id : DeviceId} : parse? s = some id ↔ s = id.text := by
  refine ⟨?_, ?_⟩
  · intro h
    unfold parse? at h
    split_ifs at h
    obtain rfl := Option.some.inj h
    rfl
  · rintro rfl
    exact parse?_text id

end DeviceId

namespace Authority

variable {a : Authority} {registry : Registry} {now : Instant} {h : Headers} {id : DeviceId}

/-! ## What is read from the headers -/

theorem printable_bearer : Printable bearer := by decide

theorem bearerToken?_eq_some_iff {token : String} :
    bearerToken? h = some token ↔ h.first? authorizationHeader = some (bearer ++ token) := by
  have hafter : ∀ value : String,
      (Text.after? bearer.toList value.toList).map String.ofList = some token
        ↔ value = bearer ++ token := by
    intro value
    simp only [Option.map_eq_some_iff, Text.after?_eq_some_iff]
    refine ⟨?_, ?_⟩
    · rintro ⟨rest, hv, rfl⟩
      rw [← String.toList_inj, hv, String.toList_append, String.toList_ofList]
    · rintro rfl
      exact ⟨token.toList, String.toList_append, String.ofList_toList⟩
  simp only [bearerToken?, Option.bind_eq_bind, Option.bind_eq_some_iff, hafter, exists_eq_right]

theorem deviceName?_eq_some_iff {name : String} :
    deviceName? h = some name ↔ h.first? deviceIdHeader = some name ∧ name ≠ "" := by
  simp only [deviceName?, Option.bind_eq_bind, Option.bind_eq_some_iff, ite_eq_iff]
  refine ⟨?_, ?_⟩
  · rintro ⟨s, hs, ⟨-, h⟩ | ⟨hne, h⟩⟩
    · cases h
    · obtain rfl := Option.some.inj h
      exact ⟨hs, hne⟩
  · rintro ⟨hs, hne⟩
    exact ⟨name, hs, .inr ⟨hne, rfl⟩⟩

/-- A request names a device if the bytes of its first name are exactly the device's. -/
theorem deviceName?_eq_text_iff :
    deviceName? h = some id.text ↔ (h.values deviceIdHeader).head? = some id.octets := by
  rw [deviceName?_eq_some_iff, Headers.first?_eq_some_iff]
  exact ⟨fun h => h.1.1, fun h => ⟨⟨h, id.printable_text⟩, id.text_ne_empty⟩⟩

theorem credential_text (a : Authority) (id : DeviceId) :
    a.credential id.text = .ok ⟨a.deviceRoot id, id⟩ := by
  rw [credential, DeviceId.parse?_text]

theorem credential_eq_ok_iff {name : String} {c : Credential} :
    a.credential name = .ok c ↔ name = c.device.text ∧ c.root = a.deviceRoot c.device := by
  refine ⟨?_, ?_⟩
  · intro h
    unfold credential at h
    split at h
    next id hid =>
      obtain rfl := Except.ok.inj h
      exact ⟨DeviceId.parse?_eq_some_iff.1 hid, rfl⟩
    next => cases h
  · rintro ⟨rfl, h⟩
    rw [credential_text, ← h]

/-- A request comes from the device that it names if the token that it bears verifies under that
device's credential. -/
theorem identify_eq_ok_iff :
    a.identify now h = .ok id ↔
      ∃ c token claims, a.credential id.text = .ok c ∧ bearerToken? h = some token
        ∧ deviceName? h = some id.text ∧ c.verify token now = .ok claims := by
  unfold identify
  rcases bearerToken? h with _ | token
  · simp
  · rcases deviceName? h with _ | name
    · simp
    · simp only [Except.bind_eq_ok_iff, Except.mapError_eq_ok_iff, credential_eq_ok_iff]
      refine ⟨?_, ?_⟩
      · rintro ⟨c, ⟨rfl, hc⟩, claims, hv, hid⟩
        obtain rfl : c.device = id := Except.ok.inj hid
        exact ⟨c, token, claims, ⟨rfl, hc⟩, rfl, rfl, hv⟩
      · rintro ⟨c, token', claims, ⟨hid, hc⟩, htoken, hname, hv⟩
        obtain rfl := Option.some.inj htoken
        refine ⟨c, ⟨(Option.some.inj hname).trans hid, hc⟩, claims, hv, ?_⟩
        rw [DeviceId.ext hid]
        rfl

/-! ## Which requests are accepted -/

theorem ofSeed_eq_ok {seed : Octets} (h : minSeedLength ≤ seed.length) :
    ∃ a, ofSeed seed = .ok a := ⟨_, if_neg (not_lt.2 h)⟩

/-- The registry is asked about the device that a request comes from, and about no other. -/
theorem authenticate_eq (a : Authority) (registry : Registry) (now : Instant) (h : Headers) :
    a.authenticate registry now h =
      match a.identify now h with
      | .error e => ⟨.error e, []⟩
      | .ok device =>
        { result := match registry device with
            | .ok true => .ok device
            | .ok false => .error .unknownDevice
            | .error why => .error (.registry why)
          lookups := [device] } := by
  unfold authenticate authenticateWith
  rcases a.identify now h with e | device
  · rfl
  · rcases hr : registry device with why | _ | _ <;>
      simp only [Registry.ask, hr] <;> rfl

theorem authenticate_eq_ok_iff :
    (a.authenticate registry now h).result = .ok id ↔
      a.identify now h = .ok id ∧ registry id = .ok true := by
  rw [authenticate_eq]
  rcases a.identify now h with e | device
  · simp
  · simp only [Except.ok.injEq]
    refine ⟨?_, ?_⟩
    · intro he
      split at he
      next hr =>
        obtain rfl := Except.ok.inj he
        exact ⟨rfl, hr⟩
      next => cases he
      next => cases he
    · rintro ⟨rfl, hr⟩
      rw [hr]

/-- What a device's credential verifies is what was sealed under its key, with claims that hold. -/
theorem verify_eq_ok_iff {c : Credential} {token : String} {claims : Claims} :
    c.verify token now = .ok claims ↔
      ∃ nonce footer message,
        token = Token.encode c.tokenKey nonce message footer c.device.octets
          ∧ Claims.ofJson message = .ok claims ∧ claims.issuedAt ≤ now ∧ claims.notBefore ≤ now
          ∧ now ≤ claims.expiration := by
  rw [Credential.verify, Token.verify_eq_ok_iff]
  simp only [Token.decode_eq_ok_iff]
  refine ⟨?_, ?_⟩
  · rintro ⟨message, ⟨nonce, footer, ht⟩, hc⟩
    exact ⟨nonce, footer, message, ht, hc⟩
  · rintro ⟨nonce, footer, message, ht, hc⟩
    exact ⟨message, ⟨nonce, footer, ht⟩, hc⟩

/-- The headers a request was given first are all that its verdict depends on. -/
theorem authenticate_congr {h' : Headers}
    (ht : (h.values authorizationHeader).head? = (h'.values authorizationHeader).head?)
    (hd : (h.values deviceIdHeader).head? = (h'.values deviceIdHeader).head?) :
    a.authenticate registry now h = a.authenticate registry now h' := by
  simp only [authenticate_eq, identify, bearerToken?, deviceName?, Headers.first?, ht, hd]

/-- A request is accepted for a device exactly if the first name it gives is the device's, its
first token was sealed under the device's key and with the device's name, in whatever way, around
claims that hold, and the registry knows the device. No other value or header matters. -/
theorem accepts_exactly {seed : Octets} (hseed : minSeedLength ≤ seed.length) :
    ∃ a, ofSeed seed = .ok a ∧ ∀ (registry : Registry) (now : Instant) (h : Headers),
      (∀ id, (a.authenticate registry now h).result = .ok id ↔
        (h.values deviceIdHeader).head? = some id.octets
          ∧ (∃ c nonce footer message claims, a.credential id.text = .ok c
            ∧ (h.values authorizationHeader).head? = some (Octets.ofString
              (bearer ++ Token.encode c.tokenKey nonce message footer id.octets))
            ∧ Claims.ofJson message = .ok claims ∧ claims.issuedAt ≤ now
            ∧ claims.notBefore ≤ now ∧ now ≤ claims.expiration)
          ∧ registry id = .ok true)
      ∧ ∀ h' : Headers,
        (h.values authorizationHeader).head? = (h'.values authorizationHeader).head? →
        (h.values deviceIdHeader).head? = (h'.values deviceIdHeader).head? →
          a.authenticate registry now h = a.authenticate registry now h' := by
  obtain ⟨a, ha⟩ := ofSeed_eq_ok hseed
  refine ⟨a, ha, fun registry now h => ⟨fun id => ?_, fun h' ht hd => authenticate_congr ht hd⟩⟩
  rw [authenticate_eq_ok_iff, identify_eq_ok_iff]
  simp only [deviceName?_eq_text_iff, bearerToken?_eq_some_iff, Headers.first?_eq_some_iff,
    verify_eq_ok_iff]
  refine ⟨?_, ?_⟩
  · rintro ⟨⟨c, token, claims, hc, ⟨ht, -⟩, hd, nonce, footer, message, rfl, hv⟩, hr⟩
    obtain rfl := DeviceId.ext (credential_eq_ok_iff.1 hc).1
    exact ⟨hd, ⟨c, nonce, footer, message, claims, hc, ht, hv⟩, hr⟩
  · rintro ⟨hd, ⟨c, nonce, footer, message, claims, hc, ht, hv⟩, hr⟩
    obtain rfl := DeviceId.ext (credential_eq_ok_iff.1 hc).1
    exact ⟨⟨c, _, claims, hc, ⟨ht, printable_bearer.append Token.printable_encode⟩, hd, nonce,
      footer, message, rfl, hv⟩, hr⟩

/-- With a seed of zeros, a token that was sealed around the claims of 1970 lets its device in. -/
theorem accepts_sealed_at_epoch :
    ∃ (a : Authority) (h : Headers) (id : DeviceId), ofSeed (Block.zeros 32).octets = .ok a
      ∧ (a.authenticate (fun _ => .ok true) .epoch h).result = .ok id := by
  let id : DeviceId := ⟨"c0ffee00-0000-4000-8000-00000000000A", rfl⟩
  let claims : Claims := ⟨.epoch, .epoch, .epoch⟩
  have hseed : minSeedLength ≤ (Block.zeros 32).octets.length := by decide
  obtain ⟨a, ha, h⟩ := accepts_exactly hseed
  let c : Credential := ⟨a.deviceRoot id, id⟩
  obtain ⟨token, ht⟩ : ∃ token, token = Token.encode c.tokenKey (Block.zeros 32)
    (Octets.ofString claims.toJson) [] id.octets := ⟨_, rfl⟩
  refine ⟨a, [("device-id", id.octets), ("authorization", Octets.ofString (bearer ++ token))], id,
    ha, ((h _ _ _).1 id).2 ⟨rfl, ⟨c, Block.zeros 32, [], Octets.ofString claims.toJson, claims,
      credential_text a id, ?_, ?_, le_refl _, le_refl _, le_refl _⟩, rfl⟩⟩
  · rw [← ht]
    rfl
  · rw [Claims.ofJson_toJson, if_pos (by decide)]
    rfl

end Authority

end DeviceAuth
