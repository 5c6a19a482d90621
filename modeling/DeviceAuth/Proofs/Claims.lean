import Mathlib.Tactic.Common
import DeviceAuth.Proofs.Envelope
import DeviceAuth.Proofs.Instant
import DeviceAuth.Proofs.JsonRecord
import DeviceAuth.Proofs.Result
import DeviceAuth.Proofs.Timestamp
import DeviceAuth.Token.Claims

/-!
# Claims written, read and checked

Claims are read back as the seconds that their timestamps tell if the years of all three instants
have four digits, and not at all otherwise (`ofJson_toJson`). No two are written alike unless they
tell the same seconds (`toJson_eq_toJson_iff`). They hold from the later of their two starts to
their expiration, both included (`validateAt_eq_ok_iff`).
-/

namespace DeviceAuth

namespace Claims

/-- The seconds that claims tell when they are written. -/
def writtenSeconds (c : Claims) : Claims :=
  ⟨c.expiration.writtenSecond, c.issuedAt.writtenSecond, c.notBefore.writtenSecond⟩

/-- All three instants have a year of four digits. -/
def Readable (c : Claims) : Prop :=
  c.expiration.HasFourDigitYear ∧ c.issuedAt.HasFourDigitYear ∧ c.notBefore.HasFourDigitYear

instance (c : Claims) : Decidable c.Readable := inferInstanceAs (Decidable (_ ∧ _ ∧ _))

theorem value?_write (t : Instant) :
    schema.value? (Timestamp.write t) =
      if t.HasFourDigitYear then some t.writtenSecond else none :=
  Timestamp.read?_write t

theorem new_members (c : Claims) : schema.New [] c.members where
  known := by simp [members, schema]
  nodup := by simp [members]
  new := by simp

theorem values?_members (c : Claims) :
    schema.values? c.members =
      if c.Readable then
        some [("exp", c.expiration.writtenSecond), ("iat", c.issuedAt.writtenSecond),
          ("nbf", c.notBefore.writtenSecond)]
      else none := by
  simp only [Json.Schema.values?, members, List.mapM_cons, List.mapM_nil, value?_write, Readable]
  by_cases he : c.expiration.HasFourDigitYear <;> by_cases hi : c.issuedAt.HasFourDigitYear <;>
    by_cases hn : c.notBefore.HasFourDigitYear <;> simp [he, hi, hn]

theorem ofJson_toJson (c : Claims) :
    ofJson (Octets.ofString c.toJson) =
      if c.Readable then .ok c.writtenSeconds else .error (.claims .malformed) := by
  rw [ofJson, toJson, schema.read_object c.new_members, Json.Schema.outcome, values?_members]
  split_ifs <;> rfl

/-- Claims are written alike if they tell the same seconds. -/
theorem toJson_eq_toJson_iff {c d : Claims} :
    c.toJson = d.toJson ↔ c.writtenSeconds = d.writtenSeconds := by
  unfold toJson
  rw [String.ofList_inj, Json.object_injective.eq_iff]
  simp only [members, List.cons.injEq, Prod.mk.injEq, true_and, and_true,
    Timestamp.write_eq_write_iff, writtenSeconds, mk.injEq]

theorem toJson_writtenSeconds (c : Claims) : c.writtenSeconds.toJson = c.toJson := by
  unfold toJson members writtenSeconds
  simp only [Timestamp.write_writtenSecond]

/-! ## When claims hold -/

theorem validateAt_eq_ok_iff {c : Claims} {now : Instant} :
    c.validateAt now = .ok () ↔
      c.issuedAt ≤ now ∧ c.notBefore ≤ now ∧ now ≤ c.expiration := by
  unfold validateAt
  split_ifs with h₁ h₂ h₃
  · simp [not_le.2 h₁]
  · simp [not_le.2 h₂]
  · simp [not_le.2 h₃]
  · simp [not_lt.1 h₁, not_lt.1 h₂, not_lt.1 h₃]

/-- A token's claims on being issued: both starts at the second it is issued in. -/
theorem issuedAt?_eq_some {now expiration : Instant}
    (h : now.wholeSecond.addSeconds? lifetime = some expiration) :
    issuedAt? now = some ⟨expiration, now.wholeSecond, now.wholeSecond⟩ := by
  simp [issuedAt?, h]

theorem issuedAt?_eq_some_iff {c : Claims} {now : Instant} :
    issuedAt? now = some c ↔
      now.wholeSecond.addSeconds? lifetime = some c.expiration
        ∧ c.issuedAt = now.wholeSecond ∧ c.notBefore = now.wholeSecond := by
  simp only [issuedAt?, Option.bind_eq_bind, Option.bind_eq_some_iff, Option.some.injEq]
  refine ⟨?_, ?_⟩
  · rintro ⟨expiration, h, rfl⟩
    exact ⟨h, rfl, rfl⟩
  · rintro ⟨h, hiat, hnbf⟩
    exact ⟨_, h, Claims.ext rfl hiat.symm hnbf.symm⟩

/-- No token can be issued in the last thirty seconds of time. -/
theorem issuedAt?_eq_none_iff {now : Instant} :
    issuedAt? now = none ↔ lastSecond < now.seconds + lifetime := by
  simp only [issuedAt?, Option.bind_eq_bind, Option.bind_eq_none_iff, reduceCtorEq, imp_false,
    ← Option.eq_none_iff_forall_ne_some]
  exact Instant.addSeconds?_eq_none_iff now.isWhole_wholeSecond (by decide)

/-- The expiration is never in a leap second, so it is told as it is. -/
theorem writtenSeconds_issued {now expiration : Instant}
    (h : now.wholeSecond.addSeconds? lifetime = some expiration) :
    writtenSeconds ⟨expiration, now.wholeSecond, now.wholeSecond⟩
      = ⟨expiration, now.writtenSecond, now.writtenSecond⟩ := by
  have hnanos := ((Instant.addSeconds?_eq_some_iff now.isWhole_wholeSecond (by decide)).1 h).2
  rw [writtenSeconds, Instant.writtenSecond_of_not_offMinute
    (Instant.not_offMinute_of_nanos hnanos), Instant.wholeSecond_of_isWhole (.inl hnanos),
    Instant.writtenSecond_wholeSecond]

theorem validateAt_issued (now iat expiration : Instant) :
    validateAt ⟨expiration, iat, iat⟩ now =
      if expiration < now then .error .expired
      else if now < iat then .error .notYetValid
      else .ok () := by
  simp only [validateAt]
  split_ifs <;> rfl

end Claims

namespace Token

theorem verify_eq_ok_iff {key : DerivedKey} {token : String} {implicit : Octets} {now : Instant}
    {claims : Claims} :
    verify key token implicit now = .ok claims ↔
      ∃ message, decode key token implicit = .ok message ∧ Claims.ofJson message = .ok claims
        ∧ claims.issuedAt ≤ now ∧ claims.notBefore ≤ now ∧ now ≤ claims.expiration := by
  simp only [← Claims.validateAt_eq_ok_iff, verify, Except.bind_eq_ok_iff]
  refine ⟨?_, ?_⟩
  · rintro ⟨message, hd, c, hc, u, hv, he⟩
    obtain rfl := Except.ok.inj he
    exact ⟨message, hd, hc, hv⟩
  · rintro ⟨message, hd, hc, hv⟩
    exact ⟨message, hd, claims, hc, (), hv, rfl⟩

/-- A sealed token verifies as the claims in it do, by the seconds that they tell. -/
theorem verify_encode (key : DerivedKey) (nonce : Block 32) (c : Claims) (footer implicit : Octets)
    (now : Instant) :
    verify key (encode key nonce (Octets.ofString c.toJson) footer implicit) implicit now =
      if c.Readable then (c.writtenSeconds.validateAt now).map fun _ => c.writtenSeconds
      else .error (.claims .malformed) := by
  rw [verify, decode_encode]
  simp only [bind, Except.bind, Claims.ofJson_toJson]
  split_ifs
  · exact Except.bind_pure_const _ _
  · rfl

end Token

end DeviceAuth
