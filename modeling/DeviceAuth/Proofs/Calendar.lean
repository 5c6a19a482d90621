import Mathlib.Tactic.IntervalCases
import DeviceAuth.Time.Calendar

/-!
# Numbering days

Every number is the number of the date it is taken for (`day_ofDay`), and that date stands in the
calendar (`valid_ofDay`). Both are shown of a day in a year from March on; what is left is that the
years come to an end where the next cycle, century or group of four years begins. Years follow each
other in the order of their days (`year_ofDay_mono`).
-/

namespace DeviceAuth.Date

/-- The date of a day in a year that starts on the first of March. -/
def ofMarch (start : Int) (inYear : Nat) : Date :=
  let month := (5 * inYear + 2) / 153
  if month < 10 then ⟨start, month + 3, inYear - daysFromMarch month + 1⟩
  else ⟨start + 1, month - 9, inYear - daysFromMarch month + 1⟩

theorem daysFromMarch_le (inYear : Nat) : daysFromMarch ((5 * inYear + 2) / 153) ≤ inYear := by
  unfold daysFromMarch
  omega

theorem day_ofMarch {start : Int} {inYear : Nat} (h : inYear ≤ 365) :
    (ofMarch start inYear).day
      = 365 * start + start / 4 - start / 100 + start / 400 + inYear - daysToEpoch := by
  have hle := daysFromMarch_le inYear
  have hm : (5 * inYear + 2) / 153 ≤ 11 := by omega
  simp only [ofMarch]
  generalize (5 * inYear + 2) / 153 = month at hle hm ⊢
  by_cases h10 : month < 10
  · rw [if_pos h10]
    have h2 : ¬ month + 3 ≤ 2 := by omega
    simp only [day, if_neg h2, Nat.add_sub_cancel]
    omega
  · rw [if_neg h10]
    have h2 : month - 9 ≤ 2 := by omega
    have h9 : month - 9 + 9 = month := by omega
    simp only [day, if_pos h2, h9, Int.add_sub_cancel]
    omega

theorem isLeapYear_iff (year : Int) :
    isLeapYear year = true ↔ year % 4 = 0 ∧ (year % 100 ≠ 0 ∨ year % 400 = 0) := by
  simp [isLeapYear]

/-- The months before February are as long as they are counted for. -/
theorem daysInMonth_march (year : Int) (month : Nat) (h : month ≤ 10) :
    daysInMonth year (if month < 10 then month + 3 else month - 9)
      = daysFromMarch (month + 1) - daysFromMarch month := by
  interval_cases month <;> rfl

/-- A year from March on has its 366th day if the February at its end has 29 days. -/
theorem valid_ofMarch {start : Int} {inYear : Nat} (h : inYear ≤ 365)
    (hleap : inYear = 365 → isLeapYear (start + 1) = true) : (ofMarch start inYear).Valid := by
  have hle := daysFromMarch_le inYear
  have hm : (5 * inYear + 2) / 153 ≤ 11 := by omega
  have hlt : inYear < daysFromMarch ((5 * inYear + 2) / 153 + 1) := by
    unfold daysFromMarch
    omega
  simp only [ofMarch]
  generalize (5 * inYear + 2) / 153 = month at hle hm hlt ⊢
  rcases Nat.lt_or_ge month 11 with hlt11 | hge
  · have hlen := fun year => daysInMonth_march year month (by omega)
    by_cases h10 : month < 10
    · rw [if_pos h10]
      simp only [if_pos h10] at hlen
      refine ⟨Nat.le_add_left _ _, ?_⟩
      simp only [hlen]
      omega
    · rw [if_neg h10]
      simp only [if_neg h10] at hlen
      refine ⟨Nat.le_add_left _ _, ?_⟩
      simp only [hlen]
      omega
  · obtain rfl : month = 11 := by omega
    have h337 : daysFromMarch 11 = 337 := rfl
    refine ⟨Nat.le_add_left _ _, ?_⟩
    simp only [show ¬ 11 < 10 from by decide, if_false, daysInMonth, if_true, h337]
    split_ifs with hl
    · omega
    · have : inYear ≠ 365 := fun he => hl (hleap he)
      omega

/-- The year from March on and the day in it that a number falls in. A year's 366th day is the last
of its group of four years, and if that is the last group of a century, of its cycle. -/
theorem ofDay_eq (n : Int) : ∃ (cycle : Int) (century group year inYear : Nat),
    century ≤ 3 ∧ group ≤ 24 ∧ year ≤ 3 ∧ inYear ≤ 365
      ∧ (inYear = 365 → year = 3 ∧ (group = 24 → century = 3))
      ∧ n + daysToEpoch
        = 146097 * cycle + 36524 * century + 1461 * group + 365 * year + inYear
      ∧ ofDay n = ofMarch (400 * cycle + 100 * century + 4 * group + year) inYear := by
  set inCycle := ((n + daysToEpoch) % 146097).toNat with hcycle
  set century := min (inCycle / 36524) 3 with hcentury
  set inCentury := inCycle - 36524 * century with hinCentury
  set group := inCentury / 1461 with hgroup
  set inGroup := inCentury - 1461 * group with hinGroup
  set year := min (inGroup / 365) 3 with hyear
  set inYear := inGroup - 365 * year with hinYear
  have hn : n + daysToEpoch = 146097 * ((n + daysToEpoch) / 146097) + inCycle
      ∧ inCycle < 146097 := by
    clear_value century inCentury group inGroup year inYear
    omega
  have h₁ : century ≤ 3 ∧ inCycle = 36524 * century + inCentury ∧ inCentury ≤ 36524
      ∧ (inCentury = 36524 → century = 3) := by
    clear_value inCycle group inGroup year inYear
    omega
  have h₂ : group ≤ 24 ∧ inCentury = 1461 * group + inGroup ∧ inGroup ≤ 1460
      ∧ (group = 24 → inGroup = 1460 → inCentury = 36524) := by
    clear_value inCycle century inCentury year inYear
    omega
  have h₃ : year ≤ 3 ∧ inGroup = 365 * year + inYear ∧ inYear ≤ 365
      ∧ (inYear = 365 → year = 3 ∧ inGroup = 1460) := by
    clear_value inCycle century inCentury group inGroup
    omega
  refine ⟨(n + daysToEpoch) / 146097, century, group, year, inYear, h₁.1, h₂.1, h₃.1,
    h₃.2.2.1, ?_, ?_, rfl⟩
  · intro h
    obtain ⟨hy, hg⟩ := h₃.2.2.2 h
    exact ⟨hy, fun h24 => h₁.2.2.2 (h₂.2.2.2 h24 hg)⟩
  · clear_value inCycle century inCentury group inGroup year inYear
    omega

theorem day_ofDay (n : Int) : (ofDay n).day = n := by
  obtain ⟨cycle, century, group, year, inYear, hc, hg, hy, hi, -, hn, he⟩ := ofDay_eq n
  rw [he, day_ofMarch hi]
  omega

theorem valid_ofDay (n : Int) : (ofDay n).Valid := by
  obtain ⟨cycle, century, group, year, inYear, hc, hg, hy, hi, hlast, -, he⟩ := ofDay_eq n
  rw [he]
  refine valid_ofMarch hi fun h => ?_
  obtain ⟨rfl, h24⟩ := hlast h
  rw [isLeapYear_iff]
  omega

theorem one_le_month (d : Date) (h : d.Valid) : 1 ≤ d.month := by
  obtain ⟨h₁, h₂⟩ := h
  unfold daysInMonth at h₂
  split_ifs at h₂ <;> omega

theorem month_le (d : Date) (h : d.Valid) : d.month ≤ 12 := by
  obtain ⟨h₁, h₂⟩ := h
  unfold daysInMonth at h₂
  split_ifs at h₂ <;> omega

theorem dayOfMonth_le (d : Date) (h : d.Valid) : d.dayOfMonth ≤ 31 := by
  obtain ⟨-, h₂⟩ := h
  unfold daysInMonth at h₂
  split_ifs at h₂ <;> omega

/-! ## Years in order -/

/-- The number of the first day of a year. -/
def newYear (year : Int) : Int := day ⟨year, 1, 1⟩

theorem newYear_eq (year : Int) :
    newYear year = 365 * (year - 1) + (year - 1) / 4 - (year - 1) / 100 + (year - 1) / 400 + 306
      - daysToEpoch := by
  have h306 : (daysFromMarch 10 : Int) = 306 := rfl
  have h2 : (1 : ℕ) ≤ 2 := by decide
  simp only [newYear, day, if_pos h2, h306, Nat.cast_one]
  omega

theorem newYear_mono {a b : Int} (h : a ≤ b) : newYear a ≤ newYear b := by
  rw [newYear_eq, newYear_eq]
  omega

/-- A date lies between the first day of its year and that of the next. -/
theorem day_bounds (d : Date) (h : d.Valid) :
    newYear d.year ≤ d.day ∧ d.day < newYear (d.year + 1) := by
  have hlo := d.one_le_month h
  have hhi := d.month_le h
  have hdom := d.dayOfMonth_le h
  have hone : 1 ≤ d.dayOfMonth := h.1
  rw [newYear_eq, newYear_eq]
  by_cases hm : d.month ≤ 2
  · simp only [day, if_pos hm, daysFromMarch]
    omega
  · simp only [day, if_neg hm, daysFromMarch]
    omega

/-- A later day lies in no earlier year. -/
theorem year_ofDay_mono {m n : Int} (h : m ≤ n) : (ofDay m).year ≤ (ofDay n).year := by
  by_contra hlt
  have hm := (day_bounds _ (valid_ofDay m)).1
  have hn := (day_bounds _ (valid_ofDay n)).2
  have hy : newYear ((ofDay n).year + 1) ≤ newYear (ofDay m).year := newYear_mono (by omega)
  rw [day_ofDay] at hm hn
  omega

theorem le_year_ofDay_iff (year n : Int) : year ≤ (ofDay n).year ↔ newYear year ≤ n := by
  have hbounds := day_bounds _ (valid_ofDay n)
  rw [day_ofDay] at hbounds
  refine ⟨fun h => (newYear_mono h).trans hbounds.1, fun h => ?_⟩
  by_contra hlt
  have hy : newYear ((ofDay n).year + 1) ≤ newYear year := newYear_mono (by omega)
  omega

end DeviceAuth.Date
