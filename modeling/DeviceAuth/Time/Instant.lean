/-!
# Instants

An `Instant` counts seconds from the first moment of 1970 and nanoseconds within the second. From
a thousand million nanoseconds on it lies in the leap second after its second, and any second may
have one. Instants are ordered by seconds, then nanoseconds, so a leap second stands between its
neighbours.
-/

namespace DeviceAuth

/-- The first second there is: -262143-01-01T00:00:00Z. -/
def firstSecond : Int := -8334601228800

/-- The last second there is: +262142-12-31T23:59:59Z. -/
def lastSecond : Int := 8210266876799

/-- A moment in universal time. -/
@[ext] structure Instant where
  seconds : Int
  nanos : Nat
  first_le : firstSecond ≤ seconds
  le_last : seconds ≤ lastSecond
  nanos_lt : nanos < 2000000000
deriving DecidableEq

namespace Instant

/-- The instant with these parts, if there is one. -/
def of? (seconds : Int) (nanos : Nat) : Option Instant :=
  if h : firstSecond ≤ seconds ∧ seconds ≤ lastSecond ∧ nanos < 2000000000 then
    some ⟨seconds, nanos, h.1, h.2.1, h.2.2⟩
  else none

/-- The first moment of 1970. -/
def epoch : Instant := ⟨0, 0, by decide, by decide, by decide⟩

instance : LE Instant where
  le a b := a.seconds < b.seconds ∨ a.seconds = b.seconds ∧ a.nanos ≤ b.nanos

instance : LT Instant where
  lt a b := a.seconds < b.seconds ∨ a.seconds = b.seconds ∧ a.nanos < b.nanos

instance (a b : Instant) : Decidable (a ≤ b) :=
  inferInstanceAs (Decidable (a.seconds < b.seconds ∨ a.seconds = b.seconds ∧ a.nanos ≤ b.nanos))

instance (a b : Instant) : Decidable (a < b) :=
  inferInstanceAs (Decidable (a.seconds < b.seconds ∨ a.seconds = b.seconds ∧ a.nanos < b.nanos))

/-- Whether the instant lies in a leap second. -/
def isLeap (t : Instant) : Bool := decide (1000000000 ≤ t.nanos)

/-- The start of the second, or of the leap second, that the instant lies in. -/
def wholeSecond (t : Instant) : Instant :=
  { t with
    nanos := if t.isLeap then 1000000000 else 0
    nanos_lt := by split <;> decide }

/-- The instant `duration` nanoseconds later, or earlier if that is negative; none if it lies
outside all time. A leap second counts only for as long as the result stays in it: leaving it
forward starts at its place in the second before, leaving it backward at its place in the second
after. -/
def add? (t : Instant) (duration : Int) : Option Instant :=
  let seconds := duration.tdiv 1000000000
  let nanos := duration.tmod 1000000000
  if t.isLeap ∧ seconds = 0 ∧ nanos + t.nanos < 2000000000 then
    of? t.seconds (nanos + t.nanos).toNat
  else
    let start : Int × Int :=
      if ¬ t.isLeap then (t.seconds, t.nanos)
      else if 0 ≤ duration then (t.seconds, t.nanos - 1000000000)
      else (t.seconds + 1, t.nanos - 1000000000)
    let total := start.2 + nanos
    of? (start.1 + seconds + total / 1000000000) (total % 1000000000).toNat

/-- The instant a whole number of seconds later. -/
def addSeconds? (t : Instant) (seconds : Int) : Option Instant := t.add? (seconds * 1000000000)

@[simp] theorem of?_parts (t : Instant) : of? t.seconds t.nanos = some t := by
  simp [of?, t.first_le, t.le_last, t.nanos_lt]

end Instant

end DeviceAuth
