import Mathlib.Order.Defs.LinearOrder
import Mathlib.Tactic.Common
import DeviceAuth.Time.Instant

/-!
# The order of instants

Instants are linearly ordered. From a whole second on, whether a leap second or not, any number of
seconds lands on a whole second that is no leap second (`addSeconds?_of_whole`). By its hours,
minutes and seconds, a leap second that ends no minute is the second after it (`writtenSecond`),
which comes later than the leap second does (`writtenSecond_le_iff`).
-/

namespace DeviceAuth.Instant

theorem le_iff {a b : Instant} :
    a ≤ b ↔ a.seconds < b.seconds ∨ a.seconds = b.seconds ∧ a.nanos ≤ b.nanos := Iff.rfl

theorem lt_iff {a b : Instant} :
    a < b ↔ a.seconds < b.seconds ∨ a.seconds = b.seconds ∧ a.nanos < b.nanos := Iff.rfl

instance : LinearOrder Instant where
  le_refl a := by rw [le_iff]; omega
  le_trans a b c := by simp only [le_iff]; omega
  lt_iff_le_not_ge a b := by simp only [le_iff, lt_iff]; omega
  le_antisymm a b h h' := by
    rw [le_iff] at h h'
    ext <;> omega
  le_total a b := by simp only [le_iff]; omega
  toDecidableLE := inferInstance

/-- The start of a second or of a leap second. -/
def IsWhole (t : Instant) : Prop := t.nanos = 0 ∨ t.nanos = 1000000000

theorem isWhole_wholeSecond (t : Instant) : t.wholeSecond.IsWhole := by
  unfold IsWhole wholeSecond
  split_ifs
  · exact .inr rfl
  · exact .inl rfl

theorem wholeSecond_of_isWhole {t : Instant} (h : t.IsWhole) : t.wholeSecond = t := by
  ext
  · rfl
  · rcases h with h | h <;> simp [wholeSecond, isLeap, h]

theorem isLeap_wholeSecond (t : Instant) : t.wholeSecond.isLeap = t.isLeap := by
  by_cases h : t.isLeap = true
  · simp only [wholeSecond, h]
    rfl
  · rw [Bool.not_eq_true] at h
    simp only [wholeSecond, h]
    rfl

/-- A leap second is another second than the one before it. -/
theorem wholeSecond_eq_iff {s t : Instant} :
    s.wholeSecond = t.wholeSecond ↔ s.seconds = t.seconds ∧ s.isLeap = t.isLeap := by
  refine ⟨fun h => ⟨?_, ?_⟩, ?_⟩
  · have hs := congrArg Instant.seconds h
    exact hs
  · rw [← s.isLeap_wholeSecond, h, t.isLeap_wholeSecond]
  · rintro ⟨hs, hl⟩
    ext
    · exact hs
    · simp only [wholeSecond, hl]

theorem of?_eq_some_iff {seconds : Int} {nanos : Nat} {t : Instant} :
    of? seconds nanos = some t ↔ t.seconds = seconds ∧ t.nanos = nanos := by
  refine ⟨?_, ?_⟩
  · intro h
    unfold of? at h
    split_ifs at h
    obtain rfl := Option.some.inj h
    exact ⟨rfl, rfl⟩
  · rintro ⟨rfl, rfl⟩
    exact of?_parts t

/-- A whole second later by some seconds; a leap second counts as the second it follows. -/
theorem addSeconds?_of_whole {t : Instant} (ht : t.IsWhole) {n : Int} (hn : 0 < n) :
    t.addSeconds? n = of? (t.seconds + n) 0 := by
  have hdiv : (n * 1000000000).tdiv 1000000000 = n := Int.mul_tdiv_cancel n (by decide)
  have hmod : (n * 1000000000).tmod 1000000000 = 0 := Int.mul_tmod_left n _
  simp only [addSeconds?, add?, hdiv, hmod]
  rw [if_neg (by omega)]
  rcases ht with h | h
  · have hl : t.isLeap = false := by simp [isLeap, h]
    simp [hl, h]
  · have hl : t.isLeap = true := by simp [isLeap, h]
    simp [hl, h, show 0 ≤ n * 1000000000 by omega]

theorem addSeconds?_eq_some_iff {t later : Instant} (ht : t.IsWhole) {n : Int} (hn : 0 < n) :
    t.addSeconds? n = some later ↔ later.seconds = t.seconds + n ∧ later.nanos = 0 := by
  rw [addSeconds?_of_whole ht hn, of?_eq_some_iff]

/-- Some seconds later there is no instant if time ends before. -/
theorem addSeconds?_eq_none_iff {t : Instant} (ht : t.IsWhole) {n : Int} (hn : 0 < n) :
    t.addSeconds? n = none ↔ lastSecond < t.seconds + n := by
  have hfirst := t.first_le
  rw [addSeconds?_of_whole ht hn, of?]
  split_ifs with h
  · simp only [false_iff]
    omega
  · simp only [true_iff]
    by_contra hle
    exact h ⟨by omega, by omega, by decide⟩

theorem lt_of_addSeconds? {t later : Instant} (ht : t.IsWhole) {n : Int} (hn : 0 < n)
    (h : t.addSeconds? n = some later) : t < later := by
  rw [addSeconds?_eq_some_iff ht hn] at h
  exact lt_iff.2 (.inl (by omega))

/-! ## Leap seconds that end no minute -/

/-- The instant lies in a leap second that does not end a minute. -/
def OffMinute (t : Instant) : Prop := t.isLeap = true ∧ t.seconds % 60 ≠ 59

instance (t : Instant) : Decidable t.OffMinute :=
  inferInstanceAs (Decidable (t.isLeap = true ∧ t.seconds % 60 ≠ 59))

variable {s t : Instant}

theorem offMinute_wholeSecond : t.wholeSecond.OffMinute ↔ t.OffMinute := by
  unfold OffMinute
  rw [t.isLeap_wholeSecond]
  rfl

theorem seconds_of_not_offMinute (h : ¬ t.OffMinute) (hl : t.isLeap = true) :
    t.seconds % 60 = 59 :=
  not_not.1 fun hne => h ⟨hl, hne⟩

/-- Time does not end off the minute, so there is a second after the instant's. -/
theorem OffMinute.succ_within (h : t.OffMinute) :
    firstSecond ≤ t.seconds + 1 ∧ t.seconds + 1 ≤ lastSecond := by
  have hfirst := t.first_le
  have hlast := t.le_last
  have hne := h.2
  unfold lastSecond at hlast ⊢
  omega

/-- The second, or leap second, that the instant's hours, minutes and seconds tell: there is a
second 60 only at the end of a minute, so elsewhere a leap second is told as the second after
it. -/
def writtenSecond (t : Instant) : Instant :=
  if h : t.OffMinute then
    { seconds := t.seconds + 1
      nanos := 0
      first_le := h.succ_within.1
      le_last := h.succ_within.2
      nanos_lt := Nat.lt_of_le_of_lt t.nanos.zero_le t.nanos_lt }
  else t.wholeSecond

theorem writtenSecond_of_not_offMinute (h : ¬ t.OffMinute) : t.writtenSecond = t.wholeSecond :=
  dif_neg h

theorem writtenSecond_of_offMinute (h : t.OffMinute) :
    t.writtenSecond.seconds = t.seconds + 1 ∧ t.writtenSecond.nanos = 0 := by
  rw [writtenSecond, dif_pos h]
  exact ⟨rfl, rfl⟩

theorem isWhole_writtenSecond (t : Instant) : t.writtenSecond.IsWhole := by
  by_cases h : t.OffMinute
  · exact .inl (writtenSecond_of_offMinute h).2
  · rw [writtenSecond_of_not_offMinute h]
    exact t.isWhole_wholeSecond

theorem not_offMinute_of_nanos (h : t.nanos = 0) : ¬ t.OffMinute := by
  simp [OffMinute, isLeap, h]

theorem not_offMinute_writtenSecond (t : Instant) : ¬ t.writtenSecond.OffMinute := by
  by_cases h : t.OffMinute
  · exact not_offMinute_of_nanos (writtenSecond_of_offMinute h).2
  · rw [writtenSecond_of_not_offMinute h, offMinute_wholeSecond]
    exact h

theorem writtenSecond_wholeSecond (t : Instant) :
    t.wholeSecond.writtenSecond = t.writtenSecond := by
  by_cases h : t.OffMinute
  · obtain ⟨hs, hn⟩ := writtenSecond_of_offMinute h
    obtain ⟨hs', hn'⟩ := writtenSecond_of_offMinute (offMinute_wholeSecond.2 h)
    exact Instant.ext (hs'.trans hs.symm) (hn'.trans hn.symm)
  · rw [writtenSecond_of_not_offMinute (mt offMinute_wholeSecond.1 h),
      writtenSecond_of_not_offMinute h, wholeSecond_of_isWhole t.isWhole_wholeSecond]

/-- The second that is told lies in the same minute. -/
theorem minute_writtenSecond (t : Instant) : t.writtenSecond.seconds / 60 = t.seconds / 60 := by
  by_cases h : t.OffMinute
  · have hne := h.2
    rw [(writtenSecond_of_offMinute h).1]
    omega
  · rw [writtenSecond_of_not_offMinute h]
    rfl

/-- The second that is told has begun once the instant's own second has, except while it still is
that same leap second off the minute. -/
theorem writtenSecond_le_iff :
    t.writtenSecond ≤ s ↔
      t.wholeSecond ≤ s ∧ ¬ (t.OffMinute ∧ s.wholeSecond = t.wholeSecond) := by
  by_cases h : t.OffMinute
  · obtain ⟨hs, hn⟩ := writtenSecond_of_offMinute h
    have hw : t.wholeSecond.seconds = t.seconds := rfl
    have hl : t.wholeSecond.nanos = 1000000000 := by simp [wholeSecond, h.1]
    rw [le_iff, le_iff, hs, hn, hw, hl, wholeSecond_eq_iff, h.1, isLeap, decide_eq_true_iff]
    simp only [h, true_and]
    omega
  · rw [writtenSecond_of_not_offMinute h]
    simp [h]

/-- What is told tells a second from its own leap second. -/
theorem wholeSecond_eq_of_writtenSecond (hs : s.seconds = t.seconds)
    (h : s.writtenSecond = t.writtenSecond) : s.wholeSecond = t.wholeSecond := by
  have hcases : ∀ t : Instant, t.OffMinute ∧ t.writtenSecond.seconds = t.seconds + 1
      ∨ t.writtenSecond = t.wholeSecond ∧ t.writtenSecond.seconds = t.seconds := by
    intro t
    by_cases ht : t.OffMinute
    · exact .inl ⟨ht, (writtenSecond_of_offMinute ht).1⟩
    · exact .inr ⟨writtenSecond_of_not_offMinute ht, by rw [writtenSecond_of_not_offMinute ht]; rfl⟩
  rcases hcases s with ⟨hos, hs'⟩ | ⟨hs', hss⟩ <;> rcases hcases t with ⟨hot, ht'⟩ | ⟨ht', hts⟩
  · rw [wholeSecond_eq_iff, hos.1, hot.1]
    exact ⟨hs, rfl⟩
  · rw [h] at hs'
    omega
  · rw [h] at hss
    omega
  · rw [← hs', h, ht']

end DeviceAuth.Instant
