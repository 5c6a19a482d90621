/-!
# Rows of four

The ciphers and hashes here work on four words, or on four columns of four bytes, at a time. A
`Quad` is such a row: operations act on all four places at once, and `turn` shifts the places
round by one.
-/

namespace DeviceAuth.Crypto

/-- Four things in order. -/
@[ext] structure Quad (α : Type) where
  a : α
  b : α
  c : α
  d : α
deriving DecidableEq, Repr

namespace Quad

variable {α β γ : Type}

/-- The same place by place. -/
def map (f : α → β) (q : Quad α) : Quad β := ⟨f q.a, f q.b, f q.c, f q.d⟩

/-- Two rows combined place by place. -/
def zipWith (f : α → β → γ) (p : Quad α) (q : Quad β) : Quad γ :=
  ⟨f p.a q.a, f p.b q.b, f p.c q.c, f p.d q.d⟩

/-- Every place moves down by one, and the first goes to the end. -/
def turn (q : Quad α) : Quad α := ⟨q.b, q.c, q.d, q.a⟩

/-- The four in order. -/
def toList (q : Quad α) : List α := [q.a, q.b, q.c, q.d]

@[simp] theorem length_toList (q : Quad α) : q.toList.length = 4 := rfl

end Quad

end DeviceAuth.Crypto
