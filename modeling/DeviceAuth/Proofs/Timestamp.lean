import Mathlib.Tactic.Common
import DeviceAuth.Proofs.Calendar
import DeviceAuth.Proofs.Instant
import DeviceAuth.Time.Timestamp

/-!
# Timestamps written and read

Digits are read as the number they were written from (`readDigits?_digits`), and a date and time of
day as the instant they lie at. So a timestamp is read back as the second that it tells if its year
has four digits, and not at all otherwise (`read?_write`). But whatever the year is, no two seconds
that can be told are written alike (`write_eq_write_iff`).
-/

namespace DeviceAuth

/-- The year an instant lies in. -/
def Instant.year (t : Instant) : Int := (Date.ofDay (t.seconds / 86400)).year

theorem Instant.year_mono {s t : Instant} (h : s.seconds ≤ t.seconds) : s.year ≤ t.year :=
  Date.year_ofDay_mono (Int.ediv_le_ediv (by decide) h)

/-- The instant lies in a year that timestamps can be read in. -/
def Instant.HasFourDigitYear (t : Instant) : Prop := 0 ≤ t.year ∧ t.year ≤ 9999

instance (t : Instant) : Decidable t.HasFourDigitYear :=
  inferInstanceAs (Decidable (0 ≤ t.year ∧ t.year ≤ 9999))

theorem Instant.year_writtenSecond (t : Instant) : t.writtenSecond.year = t.year := by
  have hminute := t.minute_writtenSecond
  have hday : t.writtenSecond.seconds / 86400 = t.seconds / 86400 := by omega
  rw [year, hday, year]

theorem Instant.hasFourDigitYear_writtenSecond {t : Instant} :
    t.writtenSecond.HasFourDigitYear ↔ t.HasFourDigitYear := by
  rw [HasFourDigitYear, year_writtenSecond, HasFourDigitYear]

theorem Instant.hasFourDigitYear_iff {t : Instant} :
    t.HasFourDigitYear ↔ -62167219200 ≤ t.seconds ∧ t.seconds ≤ 253402300799 := by
  have hfirst : Date.newYear 0 = -719528 := by decide
  have hend : Date.newYear 10000 = 2932897 := by decide
  have hle := Date.le_year_ofDay_iff 0 (t.seconds / 86400)
  have hge := Date.le_year_ofDay_iff 10000 (t.seconds / 86400)
  unfold HasFourDigitYear year
  omega

namespace Timestamp

theorem digit?_ofNat : ∀ d < 10, digit? (Char.ofNat (d + 48)) = some d := by decide

theorem readDigits?_succ : ∀ (width : Nat) (s : List Char) (n : Nat),
    readDigits? (width + 1) s n = (readDigits? width s n).bind fun r => readDigits? 1 r.2 r.1
  | 0, _, _ => rfl
  | _ + 1, [], _ => rfl
  | width + 1, c :: s, n => by
    rw [readDigits?, readDigits?]
    rcases digit? c with _ | d
    · rfl
    · exact readDigits?_succ width s (n * 10 + d)

theorem readDigits?_digits : ∀ (width n acc : Nat) (s : List Char),
    readDigits? width (digits width n ++ s) acc = some (acc * 10 ^ width + n % 10 ^ width, s)
  | 0, n, acc, s => by simp [readDigits?, digits, Nat.mod_one]
  | width + 1, n, acc, s => by
    have hd : digit? (Char.ofNat (n % 10 + 48)) = some (n % 10) := digit?_ofNat _ (by omega)
    have hn : n % 10 ^ (width + 1) = n / 10 % 10 ^ width * 10 + n % 10 := by
      rw [Nat.pow_succ, Nat.mul_comm, Nat.mod_mul]
      omega
    rw [hn, digits, List.append_assoc, readDigits?_succ, readDigits?_digits width, Option.bind_some]
    simp only [List.singleton_append, readDigits?, hd, Option.bind_eq_bind, Option.bind_some,
      Nat.pow_succ, Option.some.injEq, Prod.mk.injEq, and_true]
    rw [Nat.add_mul, Nat.mul_assoc, Nat.add_assoc]

theorem readDigits?_writeYear {year : Int} (h : 0 ≤ year ∧ year ≤ 9999) (s : List Char) :
    readDigits? 4 (writeYear year ++ s) 0 = some (year.toNat, s) := by
  have hw : writeYear year = digits 4 year.toNat := by
    unfold writeYear
    rw [if_neg (by omega), if_neg (by omega), if_pos (by omega)]
    congr 1
    omega
  rw [hw, readDigits?_digits]
  congr 2
  omega

/-- A year that is written with a sign is not read. -/
theorem readDigits?_writeYear_of_not {year : Int} (h : ¬ (0 ≤ year ∧ year ≤ 9999))
    (s : List Char) : readDigits? 4 (writeYear year ++ s) 0 = none := by
  unfold writeYear
  rcases Int.lt_or_le year 0 with hneg | hpos
  · rw [if_pos hneg]
    rfl
  · rw [if_neg (by omega), if_pos (by omega)]
    rfl

/-- The two digits of a month, a day, an hour, a minute or a second. -/
theorem readDigits?_two {n : Nat} (h : n < 100) (s : List Char) :
    readDigits? 2 (digits 2 n ++ s) 0 = some (n, s) := by
  rw [readDigits?_digits]
  congr 2
  omega

theorem expect?_cons {allowed : List Char} {c : Char} (h : c ∈ allowed) (s : List Char) :
    expect? allowed (c :: s) = some s := if_pos h

/-- The instant at a date and a time of day, at an offset in minutes. -/
def instant? (date : Date) (hour minute second nanos : Nat) (offset : Int) : Option Instant :=
  if date.Valid ∧ hour ≤ 23 ∧ minute ≤ 59 ∧ second ≤ 60 then
    let start := date.day * 86400 + hour * 3600 + minute * 60 - offset * 60
    if second = 60 then Instant.of? (start + 59) (nanos + 1000000000)
    else Instant.of? (start + second) nanos
  else none

/-- The instant a timestamp names, from its whole seconds on. -/
def readRest? (date : Date) (hour minute second : Nat) (s : List Char) : Option Instant := do
  let (nanos, s) ← match s with
    | '.' :: s => readDecimals? s
    | s => some (0, s)
  let offset ← readOffset? s
  instant? date hour minute second nanos offset

theorem read?_eq (s : List Char) : read? s = (do
    let (year, s) ← readDigits? 4 s 0
    let s ← expect? ['-'] s
    let (month, s) ← readDigits? 2 s 0
    let s ← expect? ['-'] s
    let (dayOfMonth, s) ← readDigits? 2 s 0
    let s ← expect? ['T', 't', ' '] s
    let (hour, s) ← readDigits? 2 s 0
    let s ← expect? [':'] s
    let (minute, s) ← readDigits? 2 s 0
    let s ← expect? [':'] s
    let (second, s) ← readDigits? 2 s 0
    readRest? ⟨year, month, dayOfMonth⟩ hour minute second s) := rfl

theorem readRest?_utc (date : Date) (hour minute second : Nat) :
    readRest? date hour minute second ['Z'] = instant? date hour minute second 0 0 := rfl

/-- The parts of a timestamp in universal time are read as they were written. -/
theorem read?_parts {year : Int} {month dayOfMonth hour minute second : Nat}
    (hy : 0 ≤ year ∧ year ≤ 9999) (hmo : month < 100) (hd : dayOfMonth < 100) (hh : hour < 100)
    (hmi : minute < 100) (hs : second < 100) :
    read? (writeYear year ++ '-' :: digits 2 month ++ '-' :: digits 2 dayOfMonth
        ++ 'T' :: digits 2 hour ++ ':' :: digits 2 minute ++ ':' :: digits 2 second ++ ['Z'])
      = instant? ⟨year, month, dayOfMonth⟩ hour minute second 0 0 := by
  have hyear : (year.toNat : Int) = year := Int.toNat_of_nonneg hy.1
  simp only [List.append_assoc, List.cons_append]
  rw [read?_eq, readDigits?_writeYear hy]
  simp only [Option.bind_eq_bind, Option.bind_some, expect?_cons, List.mem_cons, true_or,
    readDigits?_two hmo, readDigits?_two hd, readDigits?_two hh, readDigits?_two hmi,
    readDigits?_two hs, readRest?_utc, hyear]

/-- A date and a time of day name the instant they are taken from, the leap second of a minute by
second 60. -/
theorem instant?_ofDay {t : Instant} (ht : ¬ t.OffMinute) {second : Nat}
    (hs : second = (t.seconds % 86400).toNat) :
    instant? (Date.ofDay (t.seconds / 86400)) (second / 3600) (second / 60 % 60)
      (second % 60 + if t.isLeap then 1 else 0) 0 0 = some t.wholeSecond := by
  have hvalid := Date.valid_ofDay (t.seconds / 86400)
  have hday := Date.day_ofDay (t.seconds / 86400)
  have hof := Instant.of?_parts t.wholeSecond
  simp only [instant?, hday]
  by_cases hl : t.isLeap = true
  · have h60 : second % 60 + 1 = 60 := by
      have h59 := Instant.seconds_of_not_offMinute ht hl
      omega
    simp only [Instant.wholeSecond, hl, if_true] at hof ⊢
    rw [if_pos ⟨hvalid, by omega, by omega, by omega⟩, if_pos h60, ← hof]
    congr 1
    omega
  · simp only [Instant.wholeSecond, hl, if_false, Bool.false_eq_true] at hof ⊢
    rw [if_pos ⟨hvalid, by omega, by omega, by omega⟩, if_neg (by omega), ← hof]
    congr 1
    omega

theorem read?_write_of_not_offMinute {t : Instant} (h : t.HasFourDigitYear)
    (ht : ¬ t.OffMinute) : read? (write t).toList = some t.wholeSecond := by
  have hvalid := Date.valid_ofDay (t.seconds / 86400)
  have hmonth := Date.month_le _ hvalid
  have hdom := Date.dayOfMonth_le _ hvalid
  rw [Instant.HasFourDigitYear, Instant.year] at h
  rw [write, String.toList_ofList, writeSecond, read?_parts h (by omega) (by omega) (by omega)
    (by omega) (by split <;> omega)]
  exact instant?_ofDay ht rfl

theorem write_wholeSecond (t : Instant) : write t.wholeSecond = write t := by
  unfold write writeSecond
  rw [t.isLeap_wholeSecond]
  rfl

/-- Off the minute, a leap second is written as the second after it is. -/
theorem write_writtenSecond (t : Instant) : write t.writtenSecond = write t := by
  by_cases h : t.OffMinute
  · obtain ⟨hs, hn⟩ := Instant.writtenSecond_of_offMinute h
    have hl : t.writtenSecond.isLeap = false := by simp [Instant.isLeap, hn]
    have hne := h.2
    have hday : (t.seconds + 1) / 86400 = t.seconds / 86400 := by omega
    have hhour : ((t.seconds + 1) % 86400).toNat / 3600 = (t.seconds % 86400).toNat / 3600 := by
      omega
    have hminute : ((t.seconds + 1) % 86400).toNat / 60 % 60
        = (t.seconds % 86400).toNat / 60 % 60 := by omega
    have hsecond : ((t.seconds + 1) % 86400).toNat % 60
        = (t.seconds % 86400).toNat % 60 + 1 := by omega
    simp only [write, writeSecond, hs, hl, h.1, hday, hhour, hminute, hsecond, if_true,
      Bool.false_eq_true, if_false, Nat.add_zero]
  · rw [Instant.writtenSecond_of_not_offMinute h, write_wholeSecond]

example : write ⟨43200, 1500000000, by decide, by decide, by decide⟩ = "1970-01-01T12:00:01Z" := by
  decide

/-- A timestamp is read back if its year has four digits, as the second that it tells. -/
theorem read?_write (t : Instant) :
    read? (write t).toList = if t.HasFourDigitYear then some t.writtenSecond else none := by
  split_ifs with h
  · rw [← write_writtenSecond, read?_write_of_not_offMinute
      (Instant.hasFourDigitYear_writtenSecond.2 h) t.not_offMinute_writtenSecond,
      Instant.wholeSecond_of_isWhole t.isWhole_writtenSecond]
  · rw [Instant.HasFourDigitYear, Instant.year] at h
    rw [write, String.toList_ofList, writeSecond]
    simp only [List.append_assoc]
    rw [read?_eq, readDigits?_writeYear_of_not h]
    rfl

/-! ## No two seconds are written alike -/

theorem length_digits : ∀ width n : Nat, (digits width n).length = width
  | 0, _ => rfl
  | width + 1, n => by
    rw [digits, List.length_append, length_digits width, List.length_singleton]

theorem isDigit_of_mem_digits : ∀ {width n : Nat} {c : Char}, c ∈ digits width n →
    c.isDigit = true
  | 0, _, _, h => absurd h List.not_mem_nil
  | width + 1, n, c, h => by
    have hd : ∀ d < 10, (Char.ofNat (d + 48)).isDigit = true := by decide
    rw [digits, List.mem_append, List.mem_singleton] at h
    rcases h with h | rfl
    · exact isDigit_of_mem_digits h
    · exact hd _ (Nat.mod_lt _ (by decide))

theorem ofDigitChars_digits : ∀ width n : Nat,
    Nat.ofDigitChars 10 (digits width n) 0 = n % 10 ^ width
  | 0, n => by simp [digits, Nat.mod_one]
  | width + 1, n => by
    have hd : ∀ d < 10, (Char.ofNat (d + 48)).toNat - '0'.toNat = d := by decide
    rw [digits, Nat.ofDigitChars_append, ofDigitChars_digits width, Nat.ofDigitChars_cons,
      Nat.ofDigitChars_nil, hd _ (Nat.mod_lt _ (by decide)), Nat.pow_succ,
      Nat.mul_comm (10 ^ width), Nat.mod_mul]
    omega

def yearSign (year : Int) : List Char :=
  if year < 0 then ['-'] else if 9999 < year then ['+'] else []

def yearDigits (year : Int) : List Char :=
  if year.natAbs < 10000 then digits 4 year.natAbs else (Nat.repr year.natAbs).toList

theorem writeYear_eq (year : Int) : writeYear year = yearSign year ++ yearDigits year := by
  unfold writeYear yearSign
  by_cases hneg : year < 0
  · rw [if_pos hneg, if_pos hneg]
    rfl
  · by_cases hpos : 9999 < year
    · rw [if_neg hneg, if_neg hneg, if_pos hpos, if_pos hpos]
      rfl
    · rw [if_neg hneg, if_neg hneg, if_neg hpos, if_neg hpos]
      rfl

theorem isDigit_of_mem_yearDigits {year : Int} {c : Char} (h : c ∈ yearDigits year) :
    c.isDigit = true := by
  unfold yearDigits at h
  split_ifs at h
  · exact isDigit_of_mem_digits h
  · rw [Nat.toList_repr] at h
    exact Nat.isDigit_of_mem_toDigits (by decide) (by decide) h

theorem ofDigitChars_yearDigits (year : Int) :
    Nat.ofDigitChars 10 (yearDigits year) 0 = year.natAbs := by
  unfold yearDigits
  split_ifs with h
  · rw [ofDigitChars_digits]
    exact Nat.mod_eq_of_lt h
  · rw [Nat.toList_repr, Nat.ofDigitChars_ten_toDigits]

theorem filter_isDigit_writeYear (year : Int) :
    (writeYear year).filter Char.isDigit = yearDigits year := by
  have hsign : (yearSign year).filter Char.isDigit = [] := by
    unfold yearSign
    split_ifs <;> rfl
  rw [writeYear_eq, List.filter_append, hsign, List.nil_append,
    List.filter_eq_self.2 fun c hc => isDigit_of_mem_yearDigits hc]

theorem writeYear_injective : Function.Injective writeYear := by
  intro a b h
  have hdigits : yearDigits a = yearDigits b := by
    rw [← filter_isDigit_writeYear, h, filter_isDigit_writeYear]
  have habs : a.natAbs = b.natAbs := by
    rw [← ofDigitChars_yearDigits, hdigits, ofDigitChars_yearDigits]
  have hsign : yearSign a = yearSign b := by
    rw [writeYear_eq, writeYear_eq, hdigits] at h
    exact List.append_cancel_right h
  have hminus : ∀ year, yearSign year = ['-'] ↔ year < 0 := by
    intro year
    unfold yearSign
    split_ifs <;> simp [*]
  have hneg : a < 0 ↔ b < 0 := by rw [← hminus, hsign, hminus]
  omega

/-- What follows the year is as long for all years, so it tells where the year ends. -/
theorem writeYear_append_inj {a b : Int} {s s' : List Char} (hlen : s.length = s'.length) :
    writeYear a ++ s = writeYear b ++ s' ↔ a = b ∧ s = s' := by
  refine ⟨fun h => ?_, ?_⟩
  · obtain ⟨hyear, hs⟩ := List.append_inj' h hlen
    exact ⟨writeYear_injective hyear, hs⟩
  · rintro ⟨rfl, rfl⟩
    rfl

theorem digits_two_append_inj {m n : Nat} (hm : m < 100) (hn : n < 100) {s s' : List Char} :
    digits 2 m ++ s = digits 2 n ++ s' ↔ m = n ∧ s = s' := by
  refine ⟨fun h => ?_, ?_⟩
  · have hr := congrArg (readDigits? 2 · 0) h
    simpa only [readDigits?_two hm, readDigits?_two hn, Option.some.injEq, Prod.mk.injEq] using hr
  · rintro ⟨rfl, rfl⟩
    rfl

theorem wholeSecond_eq_of_write {s t : Instant} (hs : ¬ s.OffMinute) (ht : ¬ t.OffMinute)
    (h : write s = write t) : s.wholeSecond = t.wholeSecond := by
  have hmonth : ∀ n, (Date.ofDay n).month < 100 := fun n =>
    Nat.lt_of_le_of_lt (Date.month_le _ (Date.valid_ofDay n)) (by decide)
  have hdom : ∀ n, (Date.ofDay n).dayOfMonth < 100 := fun n =>
    Nat.lt_of_le_of_lt (Date.dayOfMonth_le _ (Date.valid_ofDay n)) (by decide)
  have hsecond : ∀ (n : Nat) (leap : Bool), n % 60 + (if leap = true then 1 else 0) < 100 := by
    intro n leap
    split_ifs <;> omega
  unfold write writeSecond at h
  rw [String.ofList_inj] at h
  simp only [List.append_assoc, List.cons_append] at h
  rw [writeYear_append_inj (by simp [length_digits])] at h
  simp (disch := first | exact hmonth _ | exact hdom _ | exact hsecond _ _ | omega) only
    [List.cons.injEq, true_and, digits_two_append_inj, and_true] at h
  obtain ⟨hy, hmo, hd, hh, hmi, hse⟩ := h
  have hday := congrArg Date.day (Date.ext hy hmo hd)
  rw [Date.day_ofDay, Date.day_ofDay] at hday
  have hs59 := Instant.seconds_of_not_offMinute hs
  have ht59 := Instant.seconds_of_not_offMinute ht
  rw [Instant.wholeSecond_eq_iff]
  rcases hls : s.isLeap with _ | _ <;> rcases hlt : t.isLeap with _ | _ <;>
    simp [hls, hlt] at hse hs59 ht59 ⊢ <;> omega

/-- Two instants have one timestamp if it tells one second of both. -/
theorem write_eq_write_iff {s t : Instant} :
    write s = write t ↔ s.writtenSecond = t.writtenSecond := by
  refine ⟨fun h => ?_, fun h => ?_⟩
  · rw [← write_writtenSecond s, ← write_writtenSecond t] at h
    have hwhole := wholeSecond_eq_of_write s.not_offMinute_writtenSecond
      t.not_offMinute_writtenSecond h
    rwa [Instant.wholeSecond_of_isWhole s.isWhole_writtenSecond,
      Instant.wholeSecond_of_isWhole t.isWhole_writtenSecond] at hwhole
  · rw [← write_writtenSecond s, h, write_writtenSecond]

end Timestamp

end DeviceAuth
