/-!
# Byte strings

`Octets` are byte strings of any length, `Block n` those of exactly `n` bytes: keys, nonces,
digests and tags. A text has its UTF-8 bytes (`Octets.ofString`), and bytes are a text at most one
way (`Octets.text?`).
-/

namespace DeviceAuth

/-- A byte string. -/
abbrev Octets := List UInt8

namespace Octets

/-- The UTF-8 bytes of a text. -/
def ofString (s : String) : Octets := s.toUTF8.data.toList

/-- The text these bytes encode, if they are UTF-8. -/
def text? (bs : Octets) : Option String := String.fromUTF8? ⟨bs.toArray⟩

/-- Bytewise exclusive or, as long as the shorter of the two. -/
def xor (a b : Octets) : Octets := List.zipWith (· ^^^ ·) a b

/-- The first `count` pieces of `size` bytes each; the last may be short and further ones empty. -/
def pieces (size : Nat) : Nat → Octets → List Octets
  | 0, _ => []
  | count + 1, bs => bs.take size :: pieces size count (bs.drop size)

/-- The lowest `count` digits of a number to the base 256, the lowest first. -/
def digits : Nat → Nat → Octets
  | 0, _ => []
  | count + 1, n => UInt8.ofNat n :: digits count (n / 256)

@[simp] theorem length_digits : ∀ count n : Nat, (digits count n).length = count
  | 0, _ => rfl
  | count + 1, n => by simp [digits, length_digits count]

@[simp] theorem length_xor (a b : Octets) : (xor a b).length = min a.length b.length := by
  simp [xor]

theorem xor_xor_cancel_right : ∀ (a k : Octets), a.length ≤ k.length → xor (xor a k) k = a
  | [], _, _ => rfl
  | _ :: _, [], h => absurd h (by simp)
  | b :: a, c :: k, h => by
    have ih := xor_xor_cancel_right a k (by simpa using h)
    simp only [xor, List.zipWith_cons_cons, List.cons.injEq] at ih ⊢
    exact ⟨by rw [UInt8.xor_assoc, UInt8.xor_self, UInt8.xor_zero], ih⟩

/-- Pieces of one length, one after another. -/
theorem length_flatMap_of_length_eq {α : Type} {size : Nat} {f : α → Octets}
    (hf : ∀ a, (f a).length = size) : ∀ as : List α, (as.flatMap f).length = as.length * size
  | [] => by simp
  | a :: as => by
    simp [hf a, length_flatMap_of_length_eq hf as, Nat.succ_mul, Nat.add_comm]

end Octets

/-- Exactly `n` bytes. -/
@[ext] structure Block (n : Nat) where
  octets : Octets
  length_octets : octets.length = n
deriving DecidableEq

attribute [simp] Block.length_octets

namespace Block

variable {n : Nat}

/-- The block these bytes are, if there are exactly `n` of them. -/
def ofOctets? (n : Nat) (bs : Octets) : Option (Block n) :=
  if h : bs.length = n then some ⟨bs, h⟩ else none

/-- The first `n` of at least `n` bytes. -/
def take (n : Nat) (bs : Octets) (h : n ≤ bs.length) : Block n :=
  ⟨bs.take n, by simp [h]⟩

/-- `n` zero bytes. -/
def zeros (n : Nat) : Block n := ⟨List.replicate n 0, by simp⟩

@[simp] theorem ofOctets?_octets (b : Block n) : ofOctets? n b.octets = some b := by
  simp [ofOctets?]

end Block

end DeviceAuth
