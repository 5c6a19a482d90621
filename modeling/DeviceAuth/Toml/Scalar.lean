import DeviceAuth.Time.Calendar
import DeviceAuth.Toml.Text

/-!
# TOML numbers, dates and booleans

Integers keep their value. Of the other kinds only the syntax matters here, and that a date stands
in the calendar and a float is not too large.
-/

namespace DeviceAuth.Toml

/-- A decimal digit. -/
def isDigit (c : Char) : Bool := '0' ≤ c && c ≤ '9'

/-- The rest of a run of digits, between which single underscores may stand. -/
def moreDigits (ok : Char → Bool) : List Char → List Char × List Char
  | [] => ([], [])
  | '_' :: c :: s =>
    if ok c then
      let (digits, rest) := moreDigits ok s
      (c :: digits, rest)
    else ([], '_' :: c :: s)
  | c :: s =>
    if ok c then
      let (digits, rest) := moreDigits ok s
      (c :: digits, rest)
    else ([], c :: s)

/-- A run of digits. -/
def digits? (ok : Char → Bool) : Reader (List Char)
  | [] => none
  | c :: s =>
    if ok c then
      let (digits, rest) := moreDigits ok s
      some (c :: digits, rest)
    else none

/-- The number that digits spell. -/
def number (base : Nat) (digits : List Char) : Nat :=
  digits.foldl (fun n c => n * base + (Hex.value? c).getD 0) 0

/-- Whether a minus sign comes first; a plus sign may come too. -/
def sign (s : List Char) : Bool × List Char :=
  match s with
  | '-' :: s => (true, s)
  | '+' :: s => (false, s)
  | s => (false, s)

/-- Decimal digits that do not start with an unneeded zero. -/
def decimal? : Reader (List Char)
  | '0' :: s => some (['0'], s)
  | s => digits? isDigit s

/-- An integer that fits 64 bits. -/
def bounded? (n : Int) : Option Int :=
  if -0x8000000000000000 ≤ n ∧ n < 0x8000000000000000 then some n else none

/-- An integer: decimal with a sign or none, or after `0x`, `0o` or `0b`. -/
def integer? : Reader Int := fun s =>
  match s with
  | '0' :: 'x' :: s => radix? 16 Hex.isDigit s
  | '0' :: 'o' :: s => radix? 8 (fun c => '0' ≤ c && c ≤ '7') s
  | '0' :: 'b' :: s => radix? 2 (fun c => c = '0' || c = '1') s
  | s => do
    let (negative, s) := sign s
    let (digits, s) ← decimal? s
    let n : Int := number 10 digits
    let n ← bounded? (if negative then -n else n)
    some (n, s)
where
  radix? (base : Nat) (ok : Char → Bool) : Reader Int := fun s => do
    let (digits, s) ← digits? ok s
    let n ← bounded? (number base digits)
    some (n, s)

/-- The least number that rounds to infinity: halfway between the largest float and 2¹⁰²⁴. -/
def tooLarge : Nat := 1 <<< 1024 - 1 <<< 970

/-- Whether a number with these digits, the last in the place of ten to the `exponent`, rounds to
infinity. Only a number of about 309 digits before the point needs to be computed. -/
def roundsToInfinity (digits : List Char) (exponent : Int) : Bool :=
  let digits := digits.dropWhile (· = '0')
  let places : Int := digits.length + exponent
  if digits = [] ∨ places < 300 then false
  else if 320 < places then true
  else
    let n := number 10 digits
    if 0 ≤ exponent then decide (tooLarge ≤ n * Nat.pow 10 exponent.toNat)
    else decide (tooLarge * Nat.pow 10 (-exponent).toNat ≤ n)

/-- An exponent, after its letter. -/
def exponent? : Reader Int := fun s => do
  let (negative, s) := sign s
  let (digits, s) ← digits? isDigit s
  let n : Int := number 10 digits
  some (if negative then -n else n, s)

/-- An exponent with its letter, if one comes next. -/
def exponentPart? : Reader Int
  | 'e' :: s | 'E' :: s => exponent? s
  | _ => none

/-- A float, by what follows it: decimals, an exponent or both after an integer, or a name. -/
def float? (s : List Char) : Option (List Char) := do
  let (negative, s) := sign s
  match s with
  | 'i' :: 'n' :: 'f' :: s | 'n' :: 'a' :: 'n' :: s => some s
  | s =>
    let (whole, s) ← decimal? s
    let (decimals, exponent, s) ← match s with
      | '.' :: s => do
        let (decimals, s) ← digits? isDigit s
        let (exponent, s) := (exponentPart? s).getD (0, s)
        some (decimals, exponent, s)
      | s => do
        let (exponent, s) ← exponentPart? s
        some ([], exponent, s)
    if ¬ negative ∧ roundsToInfinity (whole ++ decimals) (exponent - decimals.length) then none
    else some s

/-- A number in exactly that many digits. -/
def fixed? (width : Nat) : Reader Nat := fun s =>
  let digits := s.take width
  if digits.length = width ∧ digits.all isDigit then some (number 10 digits, s.drop width)
  else none

/-- What follows a character that has to come next. -/
def expect? (c : Char) (s : List Char) : Option (List Char) :=
  if s.head? = some c then some s.tail else none

/-- Hours and minutes, by what follows them. -/
def hourMinute? (s : List Char) : Option (List Char) := do
  let (hour, s) ← fixed? 2 s
  let s ← expect? ':' s
  let (minute, s) ← fixed? 2 s
  if hour ≤ 23 ∧ minute ≤ 59 then some s else none

/-- A time of day, by what follows it. -/
def time? (s : List Char) : Option (List Char) := do
  let s ← hourMinute? s
  let s ← expect? ':' s
  let (second, s) ← fixed? 2 s
  if 60 < second then none
  match s with
  | '.' :: c :: s => if isDigit c then some (s.dropWhile isDigit) else some ('.' :: c :: s)
  | s => some s

/-- What follows an offset from universal time, if one comes next. -/
def offset? : List Char → Option (List Char)
  | 'Z' :: s | 'z' :: s => some s
  | '+' :: s | '-' :: s => hourMinute? s
  | _ => none

/-- A date, by what follows it. -/
def date? (s : List Char) : Option (List Char) := do
  let (year, s) ← fixed? 4 s
  let s ← expect? '-' s
  let (month, s) ← fixed? 2 s
  let s ← expect? '-' s
  let (day, s) ← fixed? 2 s
  if (⟨year, month, day⟩ : Date).Valid then some s else none

/-- A date, a time of day, or both and perhaps an offset, by what follows it. -/
def moment? (s : List Char) : Option (List Char) :=
  match date? s with
  | none => time? s
  | some s =>
    match s with
    | 'T' :: t | 't' :: t | ' ' :: t =>
      match time? t with
      | none => some s
      | some t => some ((offset? t).getD t)
    | s => some s

/-- A boolean, by what follows it. -/
def boolean? : List Char → Option (List Char)
  | 't' :: 'r' :: 'u' :: 'e' :: s | 'f' :: 'a' :: 'l' :: 's' :: 'e' :: s => some s
  | _ => none

end DeviceAuth.Toml
