import DeviceAuth.Time.Calendar
import DeviceAuth.Time.Instant

/-!
# Timestamps

The text form of instants by RFC 3339. It is written in universal time, and read at any offset
from it under a day. A leap second is written as the number after its second's, and so as the next
second unless it ends a minute; second 60 is read as the leap second of any minute. Years outside 0
to 9999 are written with a sign, and are not read.
-/

namespace DeviceAuth.Timestamp

/-- A number below ten to the `width` in that many digits. -/
def digits (width n : Nat) : List Char :=
  match width with
  | 0 => []
  | width + 1 => digits width (n / 10) ++ [Char.ofNat (n % 10 + 48)]

/-- A year: four digits, or a sign and at least four. -/
def writeYear (year : Int) : List Char :=
  let n := year.natAbs
  let magnitude := if n < 10000 then digits 4 n else (Nat.repr n).toList
  if year < 0 then '-' :: magnitude
  else if 9999 < year then '+' :: magnitude
  else magnitude

/-- The date and the time of day to the second. -/
def writeSecond (t : Instant) : List Char :=
  let date := Date.ofDay (t.seconds / 86400)
  let second := (t.seconds % 86400).toNat
  writeYear date.year ++ '-' :: digits 2 date.month ++ '-' :: digits 2 date.dayOfMonth
    ++ 'T' :: digits 2 (second / 3600) ++ ':' :: digits 2 (second / 60 % 60)
    ++ ':' :: digits 2 (second % 60 + if t.isLeap then 1 else 0)

/-- An instant to the whole second, ending in `Z`. -/
def write (t : Instant) : String := String.ofList (writeSecond t ++ ['Z'])

/-- An instant with as many groups of three decimals as it needs, ending in `+00:00`. -/
def writeExact (t : Instant) : String :=
  let nanos := t.nanos % 1000000000
  let decimals :=
    if nanos = 0 then []
    else if nanos % 1000000 = 0 then '.' :: digits 3 (nanos / 1000000)
    else if nanos % 1000 = 0 then '.' :: digits 6 (nanos / 1000)
    else '.' :: digits 9 nanos
  String.ofList (writeSecond t ++ decimals ++ ['+', '0', '0', ':', '0', '0'])

/-- The number a decimal digit stands for. -/
def digit? (c : Char) : Option Nat :=
  if '0' ≤ c ∧ c ≤ '9' then some (c.toNat - 48) else none

/-- The number in exactly `width` digits, continuing `n`, and what follows them. -/
def readDigits? (width : Nat) (s : List Char) (n : Nat) : Option (Nat × List Char) :=
  match width, s with
  | 0, s => some (n, s)
  | _ + 1, [] => none
  | width + 1, c :: s => do
    let d ← digit? c
    readDigits? width s (n * 10 + d)

/-- What follows a character that has to come next. -/
def expect? (allowed : List Char) : List Char → Option (List Char)
  | [] => none
  | c :: s => if c ∈ allowed then some s else none

/-- Decimals of a second in nanoseconds, after the point. There has to be one; what is finer than
a nanosecond is dropped. -/
def readDecimals? (s : List Char) : Option (Nat × List Char) :=
  let decimals := s.takeWhile (digit? · |>.isSome)
  if decimals = [] then none
  else do
    let (nanos, _) ← readDigits? 9 ((decimals ++ List.replicate 9 '0').take 9) 0
    some (nanos, s.dropWhile (digit? · |>.isSome))

/-- The offset from universal time in minutes, which ends a timestamp: `Z`, or a sign, hours and
minutes. -/
def readOffset? : List Char → Option Int
  | [] => none
  | c :: s =>
    if c = 'Z' ∨ c = 'z' then if s = [] then some 0 else none
    else do
      let sign : Int ←
        if c = '+' then some 1 else if c = '-' ∨ c = '\u2212' then some (-1) else none
      let (hours, s) ← readDigits? 2 s 0
      let s ← expect? [':'] s
      let (minutes, s) ← readDigits? 2 s 0
      if hours ≤ 23 ∧ minutes ≤ 59 ∧ s = [] then some (sign * (hours * 60 + minutes)) else none

/-- The instant a timestamp names. -/
def read? (s : List Char) : Option Instant := do
  let (year, s) ← readDigits? 4 s 0
  let s ← expect? ['-'] s
  let (month, s) ← readDigits? 2 s 0
  let s ← expect? ['-'] s
  let (dayOfMonth, s) ← readDigits? 2 s 0
  let s ← expect? ['T', 't', ' '] s
  let (hour, s) ← readDigits? 2 s 0
  let s ← expect? [':'] s
  let (minute, s) ← readDigits? 2 s 0
  let s ← expect? [':'] s
  let (second, s) ← readDigits? 2 s 0
  let (nanos, s) ← match s with
    | '.' :: s => readDecimals? s
    | s => some (0, s)
  let offset ← readOffset? s
  let date : Date := ⟨year, month, dayOfMonth⟩
  if date.Valid ∧ hour ≤ 23 ∧ minute ≤ 59 ∧ second ≤ 60 then
    let start := date.day * 86400 + hour * 3600 + minute * 60 - offset * 60
    if second = 60 then Instant.of? (start + 59) (nanos + 1000000000)
    else Instant.of? (start + second) nanos
  else none

end DeviceAuth.Timestamp
