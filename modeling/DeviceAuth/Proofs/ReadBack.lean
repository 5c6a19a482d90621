import Mathlib.Tactic.Common
import DeviceAuth.Proofs.Claims

/-!
# Which claims are read back

Claims that were written are read exactly if their three years have four digits, and then to the
whole second, a leap second at the end of a minute included; another leap second is read as the
second after it (`read_back_exactly`). Years are those of the calendar: the years of four digits
begin and end at certain seconds, and a date with the number of an instant's day has the instant's
year.
-/

namespace DeviceAuth

theorem Instant.year_of_date {t : Instant} {date : Date} (hv : date.Valid)
    (hday : date.day = t.seconds / 86400) : t.year = date.year := by
  obtain ⟨hstart, hnext⟩ := date.day_bounds hv
  rw [hday] at hstart hnext
  have hle := (Date.le_year_ofDay_iff _ _).2 hstart
  have hlt := mt (Date.le_year_ofDay_iff _ _).1 (not_le.2 hnext)
  unfold year
  omega

namespace Claims

/-- The instants of claims. -/
def instants (c : Claims) : List Instant := [c.expiration, c.issuedAt, c.notBefore]

theorem readable_iff {c : Claims} :
    c.Readable ↔ ∀ t ∈ c.instants, 0 ≤ t.year ∧ t.year ≤ 9999 := by
  simp [Readable, instants, Instant.HasFourDigitYear]

theorem not_readable_iff {c : Claims} :
    ¬ c.Readable ↔ ∃ t ∈ c.instants, t.year < 0 ∨ 9999 < t.year := by
  rw [readable_iff]
  push Not
  refine exists_congr fun t => and_congr_right fun _ => ?_
  omega

theorem ofJson_toJson_eq_ok_iff {c read : Claims} :
    ofJson (Octets.ofString c.toJson) = .ok read ↔ c.Readable ∧ read = c.writtenSeconds := by
  rw [ofJson_toJson]
  split_ifs with h
  · simp [h, eq_comm]
  · simp [h]

theorem ofJson_toJson_eq_error_iff {c : Claims} {e : TokenError} :
    ofJson (Octets.ofString c.toJson) = .error e ↔ ¬ c.Readable ∧ e = .claims .malformed := by
  rw [ofJson_toJson]
  split_ifs with h
  · simp [h]
  · simp [h, eq_comm]

end Claims

end DeviceAuth
