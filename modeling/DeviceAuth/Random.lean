import DeviceAuth.Octets

/-!
# Sources of random bytes

A source answers every request with as many bytes as were asked for, or fails and says why. What
it answers may depend on a state, which each request passes on.
-/

namespace DeviceAuth

/-- A source with states in `ρ`. -/
structure RandomSource (ρ : Type) where
  fill : (n : Nat) → ρ → Except String (Block n) × ρ

/-- Reproducible sources, for comparing results byte for byte. -/
inductive Entropy
  /-- Every request is filled with these bytes from their start, over and over; with zeros if there
  are none. -/
  | repeating (bytes : Octets)
  /-- Every request fails for the same reason. -/
  | failing (why : String)
  /-- The bytes count up from this one, from request to request. -/
  | counting (next : UInt8)

namespace Entropy

/-- `n` bytes, by their positions. -/
def tabulate (n : Nat) (byte : Nat → UInt8) : Block n := ⟨(List.range n).map byte, by simp⟩

/-- The source that an entropy describes. -/
def source : RandomSource Entropy where
  fill n
    | .repeating bytes =>
      let cycle := bytes.toArray
      (.ok (tabulate n fun i => cycle.getD (i % cycle.size) 0), .repeating bytes)
    | .failing why => (.error why, .failing why)
    | .counting next =>
      (.ok (tabulate n fun i => next + UInt8.ofNat i), .counting (next + UInt8.ofNat n))

end Entropy

/-- Bytes that were drawn beforehand, each handed out once. -/
def RandomSource.drawn : RandomSource Octets where
  fill n pool :=
    match Block.ofOctets? n (pool.take n) with
    | some b => (.ok b, pool.drop n)
    | none => (.error "not enough random bytes", pool)

end DeviceAuth
