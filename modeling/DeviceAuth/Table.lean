/-!
# Tables

Values under keys, each key at most once, in the order in which the keys came. A table is read with
`List.lookup`; `lookup_set` and `lookup_remove` say what writing does to that.
-/

namespace DeviceAuth

/-- Keys with their values. -/
abbrev Table (κ ν : Type) := List (κ × ν)

namespace Table

variable {κ ν : Type} [DecidableEq κ]

/-- The table with a value under a key, in place of the one that was there. -/
def set (t : Table κ ν) (key : κ) (value : ν) : Table κ ν :=
  match t with
  | [] => [(key, value)]
  | (k, v) :: t => if k = key then (k, value) :: t else (k, v) :: set t key value

/-- The table without a key. -/
def remove (t : Table κ ν) (key : κ) : Table κ ν := t.filter fun e => e.1 ≠ key

theorem lookup_set [BEq κ] [LawfulBEq κ] (t : Table κ ν) (key : κ) (value : ν) (k : κ) :
    (t.set key value).lookup k = if k = key then some value else t.lookup k := by
  induction t with
  | nil => grind [set]
  | cons e t ih => grind [set]

theorem lookup_remove [BEq κ] [LawfulBEq κ] (t : Table κ ν) (key k : κ) :
    (t.remove key).lookup k = if k = key then none else t.lookup k := by
  induction t with
  | nil => simp [remove]
  | cons e t ih => grind [remove]

end Table

end DeviceAuth
