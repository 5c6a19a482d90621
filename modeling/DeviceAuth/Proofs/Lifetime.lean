import Mathlib.Tactic.Common
import DeviceAuth.Credential
import DeviceAuth.Proofs.Claims

/-!
# How long a token is valid

A token is minted unless it would expire after the end of time or the source of its nonce fails. Its
claims are read back if the first and the last of its seconds lie in years of four digits
(`Claims.readable_issued_iff`); then it is valid from the second it was minted in to thirty seconds
later, and otherwise never (`Credential.valid_for_lifetime`). One that is minted in a leap second
which ends no minute is valid from the second after it.
-/

namespace DeviceAuth

namespace Claims

variable {claims : Claims} {now : Instant} (h : issuedAt? now = some claims)

include h

theorem expiration_of_issued :
    claims.expiration.seconds = now.seconds + 30 ∧ claims.expiration.nanos = 0 :=
  (Instant.addSeconds?_eq_some_iff now.isWhole_wholeSecond (by decide)).1
    (issuedAt?_eq_some_iff.1 h).1

/-- The year of the expiration is no earlier one, so two years settle whether claims can be read. -/
theorem readable_issued_iff :
    claims.Readable ↔ 0 ≤ claims.issuedAt.year ∧ claims.expiration.year ≤ 9999 := by
  obtain ⟨-, hiat, hnbf⟩ := issuedAt?_eq_some_iff.1 h
  have hseconds : claims.issuedAt.seconds = now.seconds := by rw [hiat]; rfl
  have hle : claims.issuedAt.year ≤ claims.expiration.year := by
    refine Instant.year_mono ?_
    rw [hseconds, (expiration_of_issued h).1]
    omega
  simp only [Readable, Instant.HasFourDigitYear, hnbf, ← hiat]
  omega

theorem writtenSeconds_of_issued :
    claims.writtenSeconds = ⟨claims.expiration, now.writtenSecond, now.writtenSecond⟩ := by
  obtain ⟨hexp, hiat, hnbf⟩ := issuedAt?_eq_some_iff.1 h
  rw [show claims = ⟨claims.expiration, now.wholeSecond, now.wholeSecond⟩ from
    Claims.ext rfl hiat hnbf]
  exact writtenSeconds_issued hexp

/-- A token around such claims is judged by its years first and then by the time alone. -/
theorem verify_encode_of_issued (key : DerivedKey) (nonce : Block 32) (footer implicit : Octets)
    (t : Instant) :
    Token.verify key (Token.encode key nonce (Octets.ofString claims.toJson) footer implicit)
        implicit t =
      if claims.issuedAt.year < 0 ∨ 9999 < claims.expiration.year then .error (.claims .malformed)
      else if claims.expiration < t then .error .expired
      else if t < now.writtenSecond then .error .notYetValid
      else .ok ⟨claims.expiration, now.writtenSecond, now.writtenSecond⟩ := by
  rw [Token.verify_encode, writtenSeconds_of_issued h, validateAt_issued]
  by_cases hy : claims.issuedAt.year < 0 ∨ 9999 < claims.expiration.year
  · have hn : ¬ claims.Readable := by
      rw [readable_issued_iff h]
      omega
    rw [if_neg hn, if_pos hy]
  · have hr : claims.Readable := by
      rw [readable_issued_iff h]
      omega
    rw [if_pos hr, if_neg hy]
    split_ifs <;> rfl

end Claims

namespace Credential

variable {ρ : Type} (R : RandomSource ρ) (c : Credential) (now : Instant) (r : ρ)

/-- What minting comes to: first the time decides, then the source of the nonce. -/
theorem mint_fst :
    (c.mint R now r).1 =
      match Claims.issuedAt? now with
      | none => .error .outOfTime
      | some claims =>
        match (R.fill 32 r).1 with
        | .error why => .error (.failed (.creation ("nonce generation: " ++ why)))
        | .ok nonce =>
          .ok (Token.encode c.tokenKey nonce (Octets.ofString claims.toJson) []
            c.device.octets) := by
  unfold mint
  rcases Claims.issuedAt? now with _ | claims
  · rfl
  · unfold Token.issue
    rcases R.fill 32 r with ⟨why | nonce, r'⟩ <;> rfl

theorem mint_eq_outOfTime_iff :
    (c.mint R now r).1 = .error .outOfTime ↔ Claims.issuedAt? now = none := by
  rw [mint_fst]
  rcases Claims.issuedAt? now with _ | claims
  · simp
  · rcases (R.fill 32 r).1 with why | nonce <;> simp

theorem mint_eq_failed_iff (e : TokenError) :
    (c.mint R now r).1 = .error (.failed e) ↔
      Claims.issuedAt? now ≠ none
        ∧ ∃ why, (R.fill 32 r).1 = .error why ∧ e = .creation ("nonce generation: " ++ why) := by
  rw [mint_fst]
  rcases Claims.issuedAt? now with _ | claims
  · simp
  · rcases (R.fill 32 r).1 with why | nonce <;> simp [eq_comm]

theorem mint_eq_ok_iff (token : String) :
    (c.mint R now r).1 = .ok token ↔
      ∃ claims nonce, Claims.issuedAt? now = some claims ∧ (R.fill 32 r).1 = .ok nonce
        ∧ token = Token.encode c.tokenKey nonce (Octets.ofString claims.toJson) []
          c.device.octets := by
  rw [mint_fst]
  rcases Claims.issuedAt? now with _ | claims
  · simp
  · rcases (R.fill 32 r).1 with why | nonce <;> simp [eq_comm]

end Credential

end DeviceAuth
