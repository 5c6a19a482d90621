/-!
# Steps that may fail
-/

namespace Except

variable {ε ε' α β : Type}

theorem bind_eq_ok_iff {x : Except ε α} {f : α → Except ε β} {b : β} :
    (x >>= f) = .ok b ↔ ∃ a, x = .ok a ∧ f a = .ok b := by
  cases x <;> simp [bind, Except.bind]

theorem mapError_eq_ok_iff {x : Except ε α} {f : ε → ε'} {a : α} :
    x.mapError f = .ok a ↔ x = .ok a := by
  cases x with
  | error e => constructor <;> intro h <;> cases h
  | ok b => constructor <;> intro h <;> cases h <;> rfl

theorem bind_pure_const (x : Except ε α) (b : β) :
    (x >>= fun _ => pure b) = x.map fun _ => b := by
  cases x <;> rfl

/-! ## Two steps side by side -/

section Rel

variable {α' β' : Type} {R : α → α' → Prop} {Q : β → β' → Prop}

/-- Both succeed, with related values, or both fail with the same error. -/
inductive Rel (R : α → α' → Prop) : Except ε α → Except ε α' → Prop
  | ok {a : α} {b : α'} (h : R a b) : Rel R (.ok a) (.ok b)
  | error (e : ε) : Rel R (.error e) (.error e)

theorem Rel.of_eq {x y : Except ε α} (h : x = y) : Rel (· = ·) x y := by
  subst h
  cases x with
  | error e => exact .error e
  | ok a => exact .ok rfl

theorem Rel.eq {x y : Except ε α} (h : Rel (· = ·) x y) : x = y := by
  cases h with
  | ok h => rw [h]
  | error e => rfl

theorem Rel.bind {x : Except ε α} {y : Except ε α'} {f : α → Except ε β} {g : α' → Except ε β'}
    (h : Rel R x y) (hfg : ∀ a b, R a b → Rel Q (f a) (g b)) : Rel Q (x >>= f) (y >>= g) := by
  cases h with
  | ok h => exact hfg _ _ h
  | error e => exact .error e

theorem Rel.mapError {x : Except ε α} {y : Except ε α'} (f : ε → ε') (h : Rel R x y) :
    Rel R (x.mapError f) (y.mapError f) := by
  cases h with
  | ok h => exact .ok h
  | error e => exact .error (f e)

end Rel

end Except
