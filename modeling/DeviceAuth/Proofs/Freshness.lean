import Mathlib.Tactic.Common
import DeviceAuth.Proofs.Lifetime

/-!
# Tokens are as fresh as their nonces

A token tells under which nonce and in which second it was minted: a device mints the same token
twice only if it does so in one second and under one nonce (`same_token_iff`).
-/

namespace DeviceAuth

namespace Claims

/-- Claims tell the second, or the leap second, that they were issued in: by the expiration they
tell the second, and by the start whether it was the leap second after it. -/
theorem toJson_issued_inj {now now' : Instant} {claims claims' : Claims}
    (h : issuedAt? now = some claims) (h' : issuedAt? now' = some claims') :
    claims.toJson = claims'.toJson ↔ now.wholeSecond = now'.wholeSecond := by
  rw [toJson_eq_toJson_iff, writtenSeconds_of_issued h, writtenSeconds_of_issued h']
  refine ⟨fun heq => ?_, fun heq => ?_⟩
  · obtain ⟨hexp, hstart, -⟩ := Claims.mk.inj heq
    have hseconds : now.seconds + 30 = now'.seconds + 30 := by
      rw [← (expiration_of_issued h).1, hexp, (expiration_of_issued h').1]
    exact Instant.wholeSecond_eq_of_writtenSecond (by omega) hstart
  · have hissued : issuedAt? now = issuedAt? now' := by
      unfold issuedAt?
      rw [heq]
    rw [h, h'] at hissued
    obtain rfl := Option.some.inj hissued
    rw [← Instant.writtenSecond_wholeSecond, heq, Instant.writtenSecond_wholeSecond]

theorem exists_issuedAt? {now : Instant} (h : now.seconds + 30 ≤ lastSecond) :
    ∃ claims, issuedAt? now = some claims :=
  Option.ne_none_iff_exists'.1 (mt issuedAt?_eq_none_iff.1 (not_lt.2 h))

end Claims

namespace Credential

variable {ρ ρ' : Type} {R : RandomSource ρ} {R' : RandomSource ρ'} {r : ρ} {r' : ρ'}
  {nonce nonce' : Block 32} {now now' : Instant}

/-- Two tokens of a device, each minted early enough not to expire after the end of time, are one
exactly if their nonces are one and they were minted in the same second. A leap second is another
second than those around it. -/
theorem same_token_iff (c : Credential) (hnow : now.seconds + 30 ≤ lastSecond)
    (hnow' : now'.seconds + 30 ≤ lastSecond) (hfill : (R.fill 32 r).1 = .ok nonce)
    (hfill' : (R'.fill 32 r').1 = .ok nonce') :
    ∃ token token', (c.mint R now r).1 = .ok token ∧ (c.mint R' now' r').1 = .ok token'
      ∧ (token = token' ↔ nonce = nonce' ∧ now.wholeSecond = now'.wholeSecond)
      ∧ (now.wholeSecond = now'.wholeSecond ↔
        now.seconds = now'.seconds ∧ now.isLeap = now'.isLeap) := by
  obtain ⟨claims, hc⟩ := Claims.exists_issuedAt? hnow
  obtain ⟨claims', hc'⟩ := Claims.exists_issuedAt? hnow'
  refine ⟨_, _, (mint_eq_ok_iff R c now r _).2 ⟨claims, nonce, hc, hfill, rfl⟩,
    (mint_eq_ok_iff R' c now' r' _).2 ⟨claims', nonce', hc', hfill', rfl⟩, ?_,
    Instant.wholeSecond_eq_iff⟩
  rw [Token.encode_inj, Octets.ofString_injective.eq_iff, Claims.toJson_issued_inj hc hc']
  simp only [and_true]

/-- After the year 9999, under one nonce, a leap second has another token than the second before. -/
theorem same_token_iff_in_leap_second :
    ∃ (c : Credential) (second leap : Instant) (token token' : String),
      second.seconds = leap.seconds ∧ second.isLeap = false ∧ leap.isLeap = true
        ∧ (c.mint Entropy.source second (.repeating [])).1 = .ok token
        ∧ (c.mint Entropy.source leap (.repeating [])).1 = .ok token' ∧ token ≠ token' := by
  let c : Credential := ⟨⟨Block.zeros 32⟩, ⟨"c0ffee00-0000-4000-8000-00000000000A", rfl⟩⟩
  let second : Instant := ⟨253402300859, 0, by decide, by decide, by decide⟩
  let leap : Instant := ⟨253402300859, 1500000000, by decide, by decide, by decide⟩
  have hfill : (Entropy.source.fill 32 (.repeating [])).1
      = .ok (Entropy.tabulate 32 fun _ => 0) := by decide
  have hsecond : second.seconds + 30 ≤ lastSecond := by decide
  have hleap : leap.seconds + 30 ≤ lastSecond := by decide
  obtain ⟨token, token', ht, ht', heq, hwhole⟩ := same_token_iff c hsecond hleap hfill hfill
  refine ⟨c, second, leap, token, token', rfl, rfl, rfl, ht, ht', fun h => ?_⟩
  have hsame := (hwhole.1 (heq.1 h).2).2
  exact absurd hsame (by decide)

end Credential

end DeviceAuth
