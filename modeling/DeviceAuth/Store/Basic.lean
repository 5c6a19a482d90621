/-!
# Secret stores

A store keeps texts under keys. Saving overwrites, loading a key that was never saved gives
nothing, and deleting one succeeds. Any call may fail and say why; what a store holds is part of its
state, which each call passes on.
-/

namespace DeviceAuth

/-- A store with states in `σ`. -/
structure Store (σ : Type) where
  save : (key value : String) → σ → Except String Unit × σ
  load : (key : String) → σ → Except String (Option String) × σ
  delete : (key : String) → σ → Except String Unit × σ

/-- What a call of a store asks for. -/
inductive StoreOp
  | save
  | load
  | delete
deriving DecidableEq

/-- A call of a store, without the value. -/
structure StoreCall where
  op : StoreOp
  key : String
deriving DecidableEq

namespace StoreCall

/-- A call in words. -/
def describe (c : StoreCall) : String :=
  (match c.op with
    | .save => "save "
    | .load => "load "
    | .delete => "delete ") ++ c.key

end StoreCall

end DeviceAuth
