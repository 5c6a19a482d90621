import Mathlib.Tactic.Common
import DeviceAuth.Proofs.Exchange
import DeviceAuth.Proofs.Freshness
import DeviceAuth.Request.Checked

/-!
# Only the source of nonces keeps a request from being sent

None of the checks made while a request is signed can refuse anything: the key is within what can be
expanded, hash keys are within a hash's bound, bytes in memory take all that is written, and tokens
and names are texts that a header may hold. So a request is signed exactly if there is a nonce for
it, and it then has one token and one name, whatever it had before (`signs_iff_nonce`).
-/

namespace DeviceAuth

open Headers (Printable canonical)

namespace Checked

/-! ## What the checks let through -/

/-- To 32 bytes, the first block is all there is of the expansion. -/
theorem hkdf_block (material info : Octets) :
    hkdf 32 material info = .ok (Crypto.hkdf material info) := by
  unfold hkdf
  rw [dif_pos (by omega)]
  have hfirst : expand (Crypto.hmac [] material).octets info ((32 + 31) / 32) 1 []
      = (Crypto.hkdf material info).octets := by
    change (Crypto.hmac _ ([] ++ info ++ [UInt8.ofNat 1])).octets ++ [] = _
    rw [List.nil_append, List.append_nil]
    rfl
  refine congrArg Except.ok (Block.ext ?_)
  change List.take 32 _ = _
  rw [hfirst, List.take_of_length_le (Block.length_octets _).le]

theorem derive_eq (root : RootKey) (domain : String) :
    derive root domain = .ok (root.derive domain) := by
  unfold derive
  rw [hkdf_block]
  rfl

theorem writeAll_memory : ∀ (pieces : List Octets) (written : Octets),
    Sink.memory.writeAll written pieces = .ok (written ++ pieces.flatten)
  | [], written => by
    rw [List.flatten_nil, List.append_nil]
    rfl
  | piece :: pieces, written => by
    rw [List.flatten_cons, ← List.append_assoc, ← writeAll_memory pieces (written ++ piece)]
    rfl

theorem flatten_objectPieces (members : List (String × String)) :
    (objectPieces members).flatten = Json.object members := by
  unfold objectPieces Json.object
  rw [List.flatten_append, List.flatten_cons]
  rfl

theorem encodeClaims_eq (c : Claims) : encodeClaims c = .ok (Octets.ofString c.toJson) := by
  have hbytes : ∀ pieces : List (List Char),
      (pieces.map fun s => Octets.ofString (String.ofList s)).flatten
        = Octets.ofChars pieces.flatten := by
    intro pieces
    induction pieces with
    | nil => rfl
    | cons s pieces ih =>
      rw [List.map_cons, List.flatten_cons, List.flatten_cons, Octets.ofChars_append, ih,
        Octets.ofString_ofList]
  unfold encodeClaims
  rw [writeAll_memory, List.nil_append, hbytes, flatten_objectPieces, ← Octets.ofString_ofList]
  rfl

theorem headerValue_eq_ok_iff {s : String} {value : Octets} :
    headerValue s = .ok value ↔ Printable s ∧ value = Octets.ofString s := by
  unfold headerValue
  rcases ht : Headers.text? (Octets.ofString s) with _ | t
  · refine ⟨fun h => ?_, fun h => ?_⟩
    · cases h
    · rw [Headers.text?_ofString h.1] at ht
      cases ht
  · obtain ⟨heq, hp⟩ := Headers.text?_eq_some_iff.1 ht
    obtain rfl := Octets.ofString_injective heq
    rw [Except.ok.injEq]
    exact ⟨fun h => ⟨hp, h.symm⟩, fun h => h.2.symm⟩

theorem headerValue_of_printable {s : String} (hs : Printable s) :
    headerValue s = .ok (Octets.ofString s) :=
  headerValue_eq_ok_iff.2 ⟨hs, rfl⟩

/-! ## What signing comes to -/

theorem Fault.error_nonce (why : String) :
    (nonce why).error = .rejected
      ⟨"failed to create authentication token: token creation failed: nonce generation: "
        ++ why⟩ := by
  have hwords : "failed to create authentication token: " ++ "token creation failed: "
      ++ "nonce generation: "
      = "failed to create authentication token: token creation failed: nonce generation: " := by
    decide
  rw [← hwords, String.append_assoc, String.append_assoc]
  rfl

theorem prepare_eq (c : Credential) (now : Instant) :
    prepare c now =
      match Claims.issuedAt? now with
      | none => .error .outOfTime
      | some claims => .ok (c.tokenKey, Octets.ofString claims.toJson) := by
  unfold prepare
  rw [derive_eq]
  rcases Claims.issuedAt? now with _ | claims
  · rfl
  · simp only [encodeClaims_eq]
    rfl

theorem complete_eq (device : DeviceId) (request : Request) (key : DerivedKey) (message : Octets)
    (nonce : Block 32) :
    complete device request key message nonce
      = .ok (request.withToken (Token.encode key nonce message [] device.octets) device) := by
  have htoken : Printable (bearer ++ Token.encode key nonce message [] device.octets) :=
    Authority.printable_bearer.append Token.printable_encode
  unfold complete
  rw [encode_eq, headerValue_of_printable device.printable_text]
  simp only [Except.mapError, bind, Except.bind]
  rw [headerValue_of_printable htoken]
  rfl

section Authenticate

variable {ρ : Type} (R : RandomSource ρ) (c : Credential) (now : Instant) (request : Request)
  (r : ρ)

/-- The time decides first, then the source of the nonce, and nothing else does. -/
theorem authenticate_eq :
    authenticate R c now request r =
      match Claims.issuedAt? now with
      | none => (.error .outOfTime, r)
      | some claims =>
        match R.fill 32 r with
        | (.error why, r) => (.error (.nonce why), r)
        | (.ok nonce, r) =>
          (.ok (request.withToken (Token.encode c.tokenKey nonce (Octets.ofString claims.toJson) []
            c.device.octets) c.device), r) := by
  unfold authenticate
  rw [prepare_eq]
  rcases Claims.issuedAt? now with _ | claims
  · rfl
  · rcases R.fill 32 r with ⟨why | nonce, r'⟩
    · rfl
    · simp only [complete_eq]

theorem sign_eq : sign R c now request r = request.sign R c now r := by
  unfold sign
  rw [authenticate_eq]
  unfold Request.sign Credential.mint
  rcases Claims.issuedAt? now with _ | claims
  · rfl
  · unfold Token.issue
    rcases R.fill 32 r with ⟨why | nonce, r'⟩ <;> rfl

theorem authenticate_eq_error_iff (fault : Fault) :
    (authenticate R c now request r).1 = .error fault ↔
      Claims.issuedAt? now = none ∧ fault = .outOfTime
        ∨ Claims.issuedAt? now ≠ none
          ∧ ∃ why, (R.fill 32 r).1 = .error why ∧ fault = .nonce why := by
  rw [authenticate_eq]
  rcases Claims.issuedAt? now with _ | claims
  · simp [eq_comm]
  · rcases R.fill 32 r with ⟨why | nonce, r'⟩ <;> simp [eq_comm]

end Authenticate

end Checked

/-! ## One token and one name -/

namespace Headers

/-- Headers from values under names in any letter case. -/
def ofEntries (entries : List (String × Octets)) : Headers :=
  entries.foldl (fun h e => h.append e.1 e.2) []

theorem ofEntries_eq_map (entries : List (String × Octets)) :
    ofEntries entries = entries.map fun e => (canonical e.1, e.2) := by
  have hfold : ∀ (entries : List (String × Octets)) (h : Headers),
      entries.foldl (fun h e => h.append e.1 e.2) h
        = h ++ entries.map fun e => (canonical e.1, e.2) := by
    intro entries
    induction entries with
    | nil => simp
    | cons e entries ih =>
      intro h
      rw [List.foldl_cons, ih, append, List.append_assoc]
      rfl
  exact hfold entries []

theorem values_ofEntries (entries : List (String × Octets)) (name : String) :
    (ofEntries entries).values name
      = (entries.filter fun e => canonical e.1 = canonical name).map (·.2) := by
  rw [values, ofEntries_eq_map, List.filter_map, List.map_map]
  rfl

/-- One value bears the token and one is the device's name, and every other name has the values it
has among the entries. -/
structure Bear (h : Headers) (token : String) (id : DeviceId) (entries : List (String × Octets)) :
    Prop where
  authorization : h.values authorizationHeader = [Octets.ofString (bearer ++ token)]
  deviceId : h.values deviceIdHeader = [Octets.ofString id.text]
  others : ∀ name, canonical name ≠ canonical authorizationHeader →
    canonical name ≠ canonical deviceIdHeader →
      h.values name = (entries.filter fun e => canonical e.1 = canonical name).map (·.2)

end Headers

namespace Request

variable (request : Request) (token : String) (id : DeviceId)

theorem values_withToken {name : String} (ha : canonical name ≠ canonical authorizationHeader)
    (hd : canonical name ≠ canonical deviceIdHeader) :
    (request.withToken token id).headers.values name = request.headers.values name := by
  rw [withToken, Headers.values_insert_of_ne hd, Headers.values_insert_of_ne ha]

/-- A request with a token has only that one, also if it had others already. -/
theorem bear_withToken {entries : List (String × Octets)}
    (h : ∀ name, canonical name ≠ canonical authorizationHeader →
      canonical name ≠ canonical deviceIdHeader → request.headers.values name
        = (entries.filter fun e => canonical e.1 = canonical name).map (·.2)) :
    (request.withToken token id).headers.Bear token id entries where
  authorization := values_authorization_withToken request token id
  deviceId := values_deviceId_withToken request token id
  others name ha hd := by
    rw [values_withToken request token id ha hd]
    exact h name ha hd

end Request

theorem Credential.text_of_ofParts {root : Octets} {name : String} {c : Credential}
    (h : ofParts root name = .ok c) : c.device.text = name := by
  unfold ofParts at h
  obtain ⟨key, -, h⟩ := Except.bind_eq_ok_iff.1 h
  rcases hid : DeviceId.parse? name with _ | id
  · rw [hid] at h
    cases h
  · rw [hid] at h
    obtain rfl := Except.ok.inj h
    exact (DeviceId.parse?_eq_some_iff.1 hid).symm

namespace Checked

variable {ρ : Type} {R : RandomSource ρ} {now : Instant} {r : ρ} (c : Credential)
  (request : Request)

theorem sign_of_fill (hnow : now.seconds + 30 ≤ lastSecond) {nonce : Block 32}
    (hfill : (R.fill 32 r).1 = .ok nonce) :
    ∃ token, (c.mint R now r).1 = .ok token
      ∧ sign R c now request r = (.ok (request.withToken token c.device), (R.fill 32 r).2) := by
  obtain ⟨claims, hc⟩ := Claims.exists_issuedAt? hnow
  refine ⟨_, (Credential.mint_eq_ok_iff R c now r _).2 ⟨claims, nonce, hc, hfill, rfl⟩, ?_⟩
  have hpair : R.fill 32 r = (.ok nonce, (R.fill 32 r).2) := Prod.ext hfill rfl
  unfold sign
  rw [authenticate_eq, hc, hpair]
  rfl

theorem sign_of_fill_error (hnow : now.seconds + 30 ≤ lastSecond) {why : String}
    (hfill : (R.fill 32 r).1 = .error why) :
    (sign R c now request r).1 = .error (Fault.nonce why).error := by
  obtain ⟨claims, hc⟩ := Claims.exists_issuedAt? hnow
  have hpair : R.fill 32 r = (.error why, (R.fill 32 r).2) := Prod.ext hfill rfl
  unfold sign
  rw [authenticate_eq, hc, hpair]
  rfl

/-- Early enough for a token, a request is signed exactly if its nonce can be drawn; the checks on
the way refuse nothing. It then has the minted token and the name as its device spells it, each
once and in place of all that were given, and the other headers as they were given; and so it has
when it is signed once more, at any time. Otherwise it is refused as unauthenticated, and the caller
is told what the source of the nonce told. -/
theorem signs_iff_nonce (R : RandomSource ρ) (c : Credential) (entries : List (String × Octets))
    (sender : Option DeviceId) (r : ρ) (hnow : now.seconds + 30 ≤ lastSecond) :
    let request : Request := ⟨Headers.ofEntries entries, sender⟩
    sign R c now request r = request.sign R c now r
      ∧ ((∃ signed, (sign R c now request r).1 = .ok signed) ↔
        ∃ nonce, (R.fill 32 r).1 = .ok nonce)
      ∧ (∀ signed, (sign R c now request r).1 = .ok signed →
        ∃ token, (c.mint R now r).1 = .ok token ∧ signed.headers.Bear token c.device entries
          ∧ signed.device = sender
          ∧ ∀ (again : Instant) (s : ρ) (nonce : Block 32), again.seconds + 30 ≤ lastSecond →
            (R.fill 32 s).1 = .ok nonce → ∃ token' signed', (c.mint R again s).1 = .ok token'
              ∧ (sign R c again signed s).1 = .ok signed'
              ∧ signed'.headers.Bear token' c.device entries)
      ∧ (∀ why, (R.fill 32 r).1 = .error why → (sign R c now request r).1 = .error (.rejected
        ⟨"failed to create authentication token: token creation failed: nonce generation: "
          ++ why⟩))
      ∧ (∀ fault, (authenticate R c now request r).1 = .error fault →
        ∃ why, (R.fill 32 r).1 = .error why ∧ fault = .nonce why)
      ∧ ∀ root name, Credential.ofParts root name = .ok c → c.device.text = name := by
  intro request
  have hsent : ∀ signed, (sign R c now request r).1 = .ok signed →
      ∃ nonce, (R.fill 32 r).1 = .ok nonce := by
    intro signed h
    rcases hf : (R.fill 32 r).1 with why | nonce
    · rw [sign_of_fill_error c request hnow hf] at h
      cases h
    · exact ⟨nonce, rfl⟩
  refine ⟨sign_eq R c now request r, ⟨fun ⟨signed, h⟩ => hsent signed h, ?_⟩, fun signed h => ?_,
    fun why hf => ?_, fun fault h => ?_, fun root name => Credential.text_of_ofParts⟩
  · rintro ⟨nonce, hf⟩
    obtain ⟨token, -, hsign⟩ := sign_of_fill c request hnow hf
    rw [hsign]
    exact ⟨_, rfl⟩
  · obtain ⟨nonce, hf⟩ := hsent signed h
    obtain ⟨token, htoken, hsign⟩ := sign_of_fill c request hnow hf
    rw [hsign] at h
    obtain rfl := Except.ok.inj h
    have hbear := request.bear_withToken token c.device fun name _ _ =>
      Headers.values_ofEntries entries name
    refine ⟨token, htoken, hbear, rfl, fun again s nonce' hagain hf' => ?_⟩
    obtain ⟨token', htoken', hsign'⟩ :=
      sign_of_fill c (request.withToken token c.device) hagain hf'
    refine ⟨token', _, htoken', ?_, Request.bear_withToken _ token' c.device hbear.others⟩
    rw [hsign']
  · rw [sign_of_fill_error c request hnow hf, Fault.error_nonce]
  · rcases (authenticate_eq_error_iff R c now request r fault).1 h with ⟨hnone, -⟩ | ⟨-, hwhy⟩
    · obtain ⟨claims, hc⟩ := Claims.exists_issuedAt? hnow
      rw [hnone] at hc
      cases hc
    · exact hwhy

/-- Two tokens and a name that were there before are gone, whatever the case of their headers, and
what came twice under another header is still there twice. -/
theorem signs_over_stale_headers :
    ∃ (c : Credential) (now : Instant) (token : String) (signed : Request),
      now.seconds + 30 ≤ lastSecond
        ∧ (sign Entropy.source c now ⟨Headers.ofEntries [("Authorization", [0x78]),
            ("X-Trace", [1]), ("DEVICE-ID", [0xff]), ("authorization", []), ("x-trace", [2])],
            none⟩ (.counting 0)).1 = .ok signed
        ∧ (c.mint Entropy.source now (.counting 0)).1 = .ok token
        ∧ signed.headers.values authorizationHeader = [Octets.ofString (bearer ++ token)]
        ∧ signed.headers.values deviceIdHeader
          = [Octets.ofString "c0ffee00-0000-4000-8000-00000000000A"]
        ∧ signed.headers.values "x-trace" = [[1], [2]] := by
  let c : Credential := ⟨⟨Block.zeros 32⟩, ⟨"c0ffee00-0000-4000-8000-00000000000A", rfl⟩⟩
  let now : Instant := ⟨1483228799, 1500000000, by decide, by decide, by decide⟩
  have hfill : (Entropy.source.fill 32 (.counting 0)).1
      = .ok (Entropy.tabulate 32 fun i => 0 + UInt8.ofNat i) := rfl
  have hnow : now.seconds + 30 ≤ lastSecond := by decide
  obtain ⟨-, hiff, hsigned, -, -, -⟩ := signs_iff_nonce Entropy.source c [("Authorization", [0x78]),
    ("X-Trace", [1]), ("DEVICE-ID", [0xff]), ("authorization", []), ("x-trace", [2])] none
    (.counting 0) hnow
  obtain ⟨signed, hok⟩ := hiff.2 ⟨_, hfill⟩
  obtain ⟨token, htoken, hbear, -, -⟩ := hsigned signed hok
  refine ⟨c, now, token, signed, hnow, hok, htoken, hbear.authorization, hbear.deviceId, ?_⟩
  rw [hbear.others "x-trace" (by decide) (by decide)]
  rfl

end Checked

end DeviceAuth
