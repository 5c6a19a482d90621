/-!
# Days and dates

The proleptic Gregorian calendar over all integer years. A `Day` number counts from 1970-01-01;
`Date.day` and `Date.ofDay` pass between numbers and dates. Both reckon in years that start on the
first of March, so that a leap day is the last of its year, and in cycles of 400 years, which are
all 146097 days long.
-/

namespace DeviceAuth

/-- A year, a month from 1 to 12 and a day of the month from 1 on. -/
@[ext] structure Date where
  year : Int
  month : Nat
  dayOfMonth : Nat
deriving DecidableEq

/-- Every fourth year, without the centuries that are no multiple of 400. -/
def isLeapYear (year : Int) : Bool :=
  year % 4 = 0 ∧ (year % 100 ≠ 0 ∨ year % 400 = 0)

/-- The length of a month; none has more than 31 days and there are twelve. -/
def daysInMonth (year : Int) (month : Nat) : Nat :=
  if month = 2 then if isLeapYear year then 29 else 28
  else if month = 4 ∨ month = 6 ∨ month = 9 ∨ month = 11 then 30
  else if 1 ≤ month ∧ month ≤ 12 then 31
  else 0

namespace Date

/-- The date stands in the calendar. -/
def Valid (d : Date) : Prop := 1 ≤ d.dayOfMonth ∧ d.dayOfMonth ≤ daysInMonth d.year d.month

instance (d : Date) : Decidable d.Valid :=
  inferInstanceAs (Decidable (1 ≤ d.dayOfMonth ∧ d.dayOfMonth ≤ daysInMonth d.year d.month))

/-- Days from the first of March of year 0 to 1970-01-01. -/
def daysToEpoch : Int := 719468

/-- Days from the start of March to the start of the `n`-th month after it: the months from March
on go 31, 30, 31, 30, 31 over and over. -/
def daysFromMarch (n : Nat) : Nat := (153 * n + 2) / 5

/-- The number of a date, counted from 1970-01-01. -/
def day (d : Date) : Int :=
  let year := if d.month ≤ 2 then d.year - 1 else d.year
  let month := if d.month ≤ 2 then d.month + 9 else d.month - 3
  365 * year + year / 4 - year / 100 + year / 400 + daysFromMarch month + d.dayOfMonth - 1
    - daysToEpoch

/-- The date with a number. A cycle of 400 years is four centuries, of which the last is a day
longer; a century is 25 groups of four years, of which the last may be a day shorter; a group is
four years, of which the last may be a day longer. -/
def ofDay (n : Int) : Date :=
  let sinceMarch := n + daysToEpoch
  let cycle := sinceMarch / 146097
  let inCycle := (sinceMarch % 146097).toNat
  let century := min (inCycle / 36524) 3
  let inCentury := inCycle - 36524 * century
  let group := inCentury / 1461
  let inGroup := inCentury - 1461 * group
  let year := min (inGroup / 365) 3
  let inYear := inGroup - 365 * year
  let month := (5 * inYear + 2) / 153
  let start : Int := 400 * cycle + 100 * century + 4 * group + year
  if month < 10 then ⟨start, month + 3, inYear - daysFromMarch month + 1⟩
  else ⟨start + 1, month - 9, inYear - daysFromMarch month + 1⟩

end Date

end DeviceAuth
