import DeviceAuth.Store.Basic

/-!
# Stores that fail

A store can be watched: every call is noted before it goes on to the store, and calls can be made
to fail before they get there, leaving the store as it was.
-/

namespace DeviceAuth

/-- Which calls fail and with what message, given the calls made before. -/
abbrev Faults := List StoreCall → StoreCall → Option String

/-- No call fails. -/
def Faults.never : Faults := fun _ _ => none

/-- A watched store: its state and the calls made so far. -/
structure Watched (σ : Type) where
  inner : σ
  calls : List StoreCall

namespace Watched

variable {σ : Type}

/-- A call noted, and made unless it is to fail. -/
def call {α : Type} (faults : Faults) (c : StoreCall) (run : σ → Except String α × σ)
    (w : Watched σ) : Except String α × Watched σ :=
  let calls := w.calls ++ [c]
  match faults w.calls c with
  | some why => (.error why, { w with calls := calls })
  | none =>
    let (result, inner) := run w.inner
    (result, { inner, calls })

/-- A store watched, some of whose calls fail. -/
def store (S : Store σ) (faults : Faults) : Store (Watched σ) where
  save key value := call faults ⟨.save, key⟩ (S.save key value)
  load key := call faults ⟨.load, key⟩ (S.load key)
  delete key := call faults ⟨.delete, key⟩ (S.delete key)

end Watched

/-- A call that is to fail: any such call, or only the one of that number, counting from one. -/
structure Fault where
  call : StoreCall
  message : String
  nth : Option Nat

/-- The faults that a list gives; of several for one call the first counts. -/
def Faults.ofList (faults : List Fault) : Faults := fun before c =>
  (faults.find? fun f =>
    f.call = c ∧ f.nth.all (· = before.count c + 1)).map (·.message)

end DeviceAuth
