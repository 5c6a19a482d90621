import Mathlib.Tactic.Common
import DeviceAuth.Session
import DeviceAuth.Store.Faults
import DeviceAuth.Store.Memory

/-!
# Saving a session is all or nothing

A watched store in memory, any of whose calls may fail. Which of several calls made one after
another is the first to fail (`Faults.first?`) settles what saving does: it is refused, it stops
while reading, it goes through, or it stops while writing and puts back what it had written, each
entry unless the call that puts it back fails too (`save_atomic`).
-/

namespace DeviceAuth

namespace Faults

variable (faults : Faults)

/-- The first of some calls to fail if they are made one after another, by how many go through
before it, and why it fails. -/
def first? : (before calls : List StoreCall) → Option (Nat × String)
  | _, [] => none
  | before, c :: calls =>
    match faults before c with
    | some why => some (0, why)
    | none => (first? (before ++ [c]) calls).map fun f => (f.1 + 1, f.2)

/-- Of some calls made one after another, that of number `j` fails. -/
def failsAt (before calls : List StoreCall) (j : Nat) : Bool :=
  (calls[j]?.bind (faults (before ++ calls.take j))).isSome

variable {faults} {before : List StoreCall} {c : StoreCall} {calls : List StoreCall}

theorem first?_cons_of_fails {why : String} (h : faults before c = some why) :
    faults.first? before (c :: calls) = some (0, why) := by
  simp only [first?, h]

theorem first?_cons_of_passes (h : faults before c = none) :
    faults.first? before (c :: calls) =
      (faults.first? (before ++ [c]) calls).map fun f => (f.1 + 1, f.2) := by
  simp only [first?, h]

theorem first?_append_eq_none_iff : ∀ {calls before : List StoreCall} {more : List StoreCall},
    faults.first? before (calls ++ more) = none ↔
      faults.first? before calls = none ∧ faults.first? (before ++ calls) more = none
  | [], before, more => by simp [first?]
  | c :: calls, before, more => by
    rcases hc : faults before c with _ | why
    · rw [List.cons_append, first?_cons_of_passes hc, first?_cons_of_passes hc,
        Option.map_eq_none_iff, Option.map_eq_none_iff, first?_append_eq_none_iff,
        List.append_assoc, List.singleton_append]
    · rw [List.cons_append, first?_cons_of_fails hc, first?_cons_of_fails hc]
      simp

theorem failsAt_zero : faults.failsAt before (c :: calls) 0 = (faults before c).isSome := by
  simp [failsAt]

theorem failsAt_succ (j : Nat) :
    faults.failsAt before (c :: calls) (j + 1) = faults.failsAt (before ++ [c]) calls j := by
  simp [failsAt]

end Faults

namespace Table

variable {κ ν : Type} [DecidableEq κ]

/-- The table with several values, each under its key. -/
def setAll (t : Table κ ν) (entries : List (κ × ν)) : Table κ ν :=
  entries.foldl (fun t e => t.set e.1 e.2) t

theorem lookup_setAll_of_notMem : ∀ (entries : List (κ × ν)) (t : Table κ ν) {key : κ},
    key ∉ entries.map (·.1) → (t.setAll entries).lookup key = t.lookup key
  | [], _, _, _ => rfl
  | (k, v) :: entries, t, key, h => by
    simp only [List.map_cons, List.mem_cons, not_or] at h
    rw [setAll, List.foldl_cons, ← setAll, lookup_setAll_of_notMem entries _ h.2, lookup_set,
      if_neg h.1]

/-- Of different keys each has its value. -/
theorem lookup_setAll_of_mem : ∀ (entries : List (κ × ν)) (t : Table κ ν) {key : κ} {value : ν},
    (entries.map (·.1)).Nodup → (key, value) ∈ entries →
      (t.setAll entries).lookup key = some value
  | (k, v) :: entries, t, key, value, hn, h => by
    simp only [List.map_cons, List.nodup_cons] at hn
    rw [setAll, List.foldl_cons, ← setAll]
    rcases List.mem_cons.1 h with h | h
    · obtain ⟨rfl, rfl⟩ := Prod.mk.inj h
      rw [lookup_setAll_of_notMem entries _ hn.1, lookup_set, if_pos rfl]
    · exact lookup_setAll_of_mem entries _ hn.2 h

end Table

namespace Watched

/-- The store in memory, watched. -/
abbrev memory (faults : Faults) : Store (Watched Memory) := Watched.store Memory.store faults

section Calls

variable {faults : Faults} {σ α : Type} {c : StoreCall} {run : σ → Except String α × σ}

theorem call_of_passes {w : Watched σ} (h : faults w.calls c = none) :
    call faults c run w = ((run w.inner).1, ⟨(run w.inner).2, w.calls ++ [c]⟩) := by
  simp only [call, h]

theorem call_of_fails {w : Watched σ} {why : String} (h : faults w.calls c = some why) :
    call faults c run w = (.error why, { w with calls := w.calls ++ [c] }) := by
  simp only [call, h]

end Calls

end Watched

namespace Session

open Watched (memory)

variable {faults : Faults}

section Calls

variable {w : Watched Memory} {key value why : String}

theorem memory_load_of_passes (h : faults w.calls ⟨.load, key⟩ = none) :
    (memory faults).load key w
      = (.ok (w.inner.lookup key), { w with calls := w.calls ++ [⟨.load, key⟩] }) :=
  Watched.call_of_passes h

theorem memory_load_of_fails (h : faults w.calls ⟨.load, key⟩ = some why) :
    (memory faults).load key w = (.error why, { w with calls := w.calls ++ [⟨.load, key⟩] }) :=
  Watched.call_of_fails h

theorem memory_save_of_passes (h : faults w.calls ⟨.save, key⟩ = none) :
    (memory faults).save key value w
      = (.ok (), ⟨w.inner.set key value, w.calls ++ [⟨.save, key⟩]⟩) :=
  Watched.call_of_passes h

theorem memory_save_of_fails (h : faults w.calls ⟨.save, key⟩ = some why) :
    (memory faults).save key value w
      = (.error why, { w with calls := w.calls ++ [⟨.save, key⟩] }) :=
  Watched.call_of_fails h

theorem memory_delete_of_passes (h : faults w.calls ⟨.delete, key⟩ = none) :
    (memory faults).delete key w
      = (.ok (), ⟨w.inner.remove key, w.calls ++ [⟨.delete, key⟩]⟩) :=
  Watched.call_of_passes h

theorem memory_delete_of_fails (h : faults w.calls ⟨.delete, key⟩ = some why) :
    (memory faults).delete key w
      = (.error why, { w with calls := w.calls ++ [⟨.delete, key⟩] }) :=
  Watched.call_of_fails h

end Calls

/-- The calls that load some keys. -/
def loadCalls (keys : List String) : List StoreCall := keys.map fun key => ⟨.load, key⟩

/-- The calls that save under some keys. -/
def saveCalls (keys : List String) : List StoreCall := keys.map fun key => ⟨.save, key⟩

/-- Loading goes on up to the first call that fails, and changes nothing. -/
theorem loadAll_memory : ∀ (keys : List String) (w : Watched Memory),
    loadAll (memory faults) keys w =
      match faults.first? w.calls (loadCalls keys) with
      | none => (.ok (keys.map fun key => w.inner.lookup key),
          { w with calls := w.calls ++ loadCalls keys })
      | some (i, why) => (.error (keys.getD i "", why),
          { w with calls := w.calls ++ (loadCalls keys).take (i + 1) })
  | [], w => by simp [loadAll, loadCalls, Faults.first?]
  | key :: keys, w => by
    rcases hc : faults w.calls ⟨.load, key⟩ with _ | why
    · have ih := loadAll_memory keys { w with calls := w.calls ++ [⟨.load, key⟩] }
      rw [loadCalls, List.map_cons, ← loadCalls, Faults.first?_cons_of_passes hc, loadAll,
        memory_load_of_passes hc]
      simp only [ih]
      rcases hf : faults.first? (w.calls ++ [⟨.load, key⟩]) (loadCalls keys) with _ | ⟨i, why⟩ <;>
        simp [hf]
    · rw [loadCalls, List.map_cons, Faults.first?_cons_of_fails hc, loadAll,
        memory_load_of_fails hc]
      simp

/-- The call that puts an entry back as it was. -/
def putBackCall (entry : String × Option String) : StoreCall :=
  ⟨if entry.2.isSome then .save else .delete, entry.1⟩

theorem putBack_of_fails {w : Watched Memory} {entry : String × Option String}
    (h : (faults w.calls (putBackCall entry)).isSome) :
    putBack (memory faults) w entry = { w with calls := w.calls ++ [putBackCall entry] } := by
  obtain ⟨why, h⟩ := Option.isSome_iff_exists.1 h
  obtain ⟨key, _ | value⟩ := entry
  · exact congrArg Prod.snd (memory_delete_of_fails h)
  · exact congrArg Prod.snd (memory_save_of_fails h)

/-- A call that puts an entry back and goes through leaves the key as it was and the others as they
are. -/
theorem putBack_of_passes {w : Watched Memory} {entry : String × Option String}
    (h : faults w.calls (putBackCall entry) = none) :
    (putBack (memory faults) w entry).calls = w.calls ++ [putBackCall entry]
      ∧ ∀ key, (putBack (memory faults) w entry).inner.lookup key =
        if key = entry.1 then entry.2 else w.inner.lookup key := by
  obtain ⟨key, _ | value⟩ := entry
  · simp only [putBack, memory_delete_of_passes h]
    exact ⟨rfl, Table.lookup_remove w.inner key⟩
  · simp only [putBack, memory_save_of_passes h]
    exact ⟨rfl, Table.lookup_set w.inner key value⟩

theorem putBack_calls (w : Watched Memory) (entry : String × Option String) :
    (putBack (memory faults) w entry).calls = w.calls ++ [putBackCall entry] := by
  rcases h : faults w.calls (putBackCall entry) with _ | why
  · exact (putBack_of_passes h).1
  · rw [putBack_of_fails (by rw [h]; rfl)]

theorem lookup_putBack (w : Watched Memory) (entry : String × Option String) (key : String) :
    (putBack (memory faults) w entry).inner.lookup key =
      if key = entry.1 ∧ faults w.calls (putBackCall entry) = none then entry.2
      else w.inner.lookup key := by
  rcases h : faults w.calls (putBackCall entry) with _ | why
  · simp only [(putBack_of_passes h).2, and_true]
  · rw [putBack_of_fails (by rw [h]; rfl)]
    simp

/-- Whatever fails, every entry is tried. -/
theorem foldl_putBack_calls : ∀ (entries : List (String × Option String)) (w : Watched Memory),
    (entries.foldl (putBack (memory faults)) w).calls = w.calls ++ entries.map putBackCall
  | [], w => by simp
  | entry :: entries, w => by
    rw [List.foldl_cons, foldl_putBack_calls entries, putBack_calls, List.append_assoc]
    rfl

theorem lookup_foldl_putBack_of_notMem : ∀ (entries : List (String × Option String))
    (w : Watched Memory) {key : String}, key ∉ entries.map (·.1) →
      (entries.foldl (putBack (memory faults)) w).inner.lookup key = w.inner.lookup key
  | [], _, _, _ => rfl
  | entry :: entries, w, key, h => by
    simp only [List.map_cons, List.mem_cons, not_or] at h
    rw [List.foldl_cons, lookup_foldl_putBack_of_notMem entries _ h.2, lookup_putBack,
      if_neg fun h' => h.1 h'.1]

/-- An entry is put back unless the call that does so fails. -/
theorem lookup_foldl_putBack : ∀ (entries : List (String × Option String)) (w : Watched Memory)
    {j : Nat} {key : String} {old : Option String}, (entries.map (·.1)).Nodup →
      entries[j]? = some (key, old) →
        (entries.foldl (putBack (memory faults)) w).inner.lookup key =
          if faults.failsAt w.calls (entries.map putBackCall) j then w.inner.lookup key else old
  | entry :: entries, w, 0, key, old, hn, h => by
    simp only [List.map_cons, List.nodup_cons] at hn
    obtain rfl := Option.some.inj h
    rw [List.foldl_cons, lookup_foldl_putBack_of_notMem entries _ hn.1, lookup_putBack,
      List.map_cons, Faults.failsAt_zero]
    rcases faults w.calls (putBackCall (key, old)) with _ | why <;> simp
  | entry :: entries, w, j + 1, key, old, hn, h => by
    simp only [List.map_cons, List.nodup_cons] at hn
    rw [List.getElem?_cons_succ] at h
    have hne : key ≠ entry.1 := by
      rintro rfl
      exact hn.1 (List.mem_map.2 ⟨_, List.mem_of_getElem? h, rfl⟩)
    have hp : ¬ (key = entry.1 ∧ faults w.calls (putBackCall entry) = none) := fun h' => hne h'.1
    rw [List.foldl_cons, lookup_foldl_putBack entries _ hn.2 h, putBack_calls, lookup_putBack,
      List.map_cons, Faults.failsAt_succ, if_neg hp]

/-- Writing goes on up to the first call that fails. If there is one, all that was written is put
back, in the order in which it was written. -/
theorem saveAll_memory : ∀ (entries : List (String × Option String × String))
    (written : List (String × Option String)) (w : Watched Memory),
    saveAll (memory faults) written entries w =
      match faults.first? w.calls (saveCalls (entries.map (·.1))) with
      | none => (.ok (),
          { inner := w.inner.setAll (entries.map fun e => (e.1, e.2.2))
            calls := w.calls ++ saveCalls (entries.map (·.1)) })
      | some (i, why) => (.error (.saving ((entries.map (·.1)).getD i "") why),
          (written ++ (entries.take i).map fun e => (e.1, e.2.1)).foldl (putBack (memory faults))
            { inner := w.inner.setAll ((entries.take i).map fun e => (e.1, e.2.2))
              calls := w.calls ++ (saveCalls (entries.map (·.1))).take (i + 1) })
  | [], written, w => by simp [saveAll, saveCalls, Faults.first?, Table.setAll]
  | (key, old, value) :: entries, written, w => by
    rcases hc : faults w.calls ⟨.save, key⟩ with _ | why
    · have ih := saveAll_memory entries (written ++ [(key, old)])
        { inner := w.inner.set key value, calls := w.calls ++ [⟨.save, key⟩] }
      rw [List.map_cons, saveCalls, List.map_cons, ← saveCalls, Faults.first?_cons_of_passes hc,
        saveAll, memory_save_of_passes hc]
      simp only [ih]
      rcases hf : faults.first? (w.calls ++ [⟨.save, key⟩]) (saveCalls (entries.map (·.1)))
        with _ | ⟨i, why⟩ <;> simp [hf, Table.setAll]
    · rw [List.map_cons, saveCalls, List.map_cons, Faults.first?_cons_of_fails hc, saveAll,
        memory_save_of_fails hc]
      simp [Table.setAll]

section Save

variable {c : Settings} {w : Watched Memory}

theorem nodup_keys : keys.Nodup := by decide

/-- The entries of a session with what they are to hold. -/
def entries (c : Settings) : List (String × String) := keys.zip (values c)

/-- The calls that put the entries of a session back as they were. -/
def putBackCalls (m : Memory) : List StoreCall :=
  keys.map fun key => putBackCall (key, m.lookup key)

theorem map_fst_entries (c : Settings) : (entries c).map (·.1) = keys := rfl

theorem map_fst_before (m : Memory) (ks : List String) :
    (ks.map fun key => (key, m.lookup key)).map (·.1) = ks := by
  rw [List.map_map]
  exact List.map_id ks

theorem save_of_invalid {e : ConfigError} (h : c.validate = .error e) :
    save (memory faults) c w = (.error (.refused e), w) := by
  simp only [save, h]

theorem save_of_reading {i : Nat} {why : String} (hv : c.validate = .ok ())
    (h : faults.first? w.calls (loadCalls keys) = some (i, why)) :
    save (memory faults) c w = (.error (.reading (keys.getD i "") why),
      { w with calls := w.calls ++ (loadCalls keys).take (i + 1) }) := by
  simp only [save, hv, loadAll_memory, h]

/-- Once all was read, what is left to do is to write the entries. -/
theorem save_of_read (hv : c.validate = .ok ())
    (h : faults.first? w.calls (loadCalls keys) = none) :
    save (memory faults) c w =
      match faults.first? (w.calls ++ loadCalls keys) (saveCalls keys) with
      | none => (.ok (), { inner := w.inner.setAll (entries c)
                           calls := w.calls ++ loadCalls keys ++ saveCalls keys })
      | some (i, why) => (.error (.saving (keys.getD i "") why),
          ((keys.take i).map fun key => (key, w.inner.lookup key)).foldl (putBack (memory faults))
            { inner := w.inner.setAll ((entries c).take i)
              calls := w.calls ++ loadCalls keys ++ (saveCalls keys).take (i + 1) }) := by
  simp only [save, hv, loadAll_memory, h, saveAll_memory]
  have hk : (keys.zip ((keys.map fun key => w.inner.lookup key).zip (values c))).map (·.1)
      = keys := rfl
  have he : (keys.zip ((keys.map fun key => w.inner.lookup key).zip (values c))).map
      (fun e => (e.1, e.2.2)) = entries c := rfl
  have hp : (keys.zip ((keys.map fun key => w.inner.lookup key).zip (values c))).map
      (fun e => (e.1, e.2.1)) = keys.map fun key => (key, w.inner.lookup key) := rfl
  simp only [List.map_take, hk, he, hp, List.nil_append]

theorem save_of_passes (hv : c.validate = .ok ())
    (h : faults.first? w.calls (loadCalls keys ++ saveCalls keys) = none) :
    save (memory faults) c w = (.ok (),
      ⟨w.inner.setAll (entries c), w.calls ++ loadCalls keys ++ saveCalls keys⟩) := by
  obtain ⟨hl, hs⟩ := Faults.first?_append_eq_none_iff.1 h
  simp only [save_of_read hv hl, hs]

section Saving

variable {i : Nat} {why : String} (hv : c.validate = .ok ())
  (hl : faults.first? w.calls (loadCalls keys) = none)
  (hs : faults.first? (w.calls ++ loadCalls keys) (saveCalls keys) = some (i, why))

include hv hl hs

theorem save_of_saving :
    save (memory faults) c w = (.error (.saving (keys.getD i "") why),
      ((keys.take i).map fun key => (key, w.inner.lookup key)).foldl (putBack (memory faults))
        ⟨w.inner.setAll ((entries c).take i),
          w.calls ++ loadCalls keys ++ (saveCalls keys).take (i + 1)⟩) := by
  simp only [save_of_read hv hl, hs]

theorem save_calls_of_saving :
    (save (memory faults) c w).2.calls =
      w.calls ++ loadCalls keys ++ (saveCalls keys).take (i + 1)
        ++ (putBackCalls w.inner).take i := by
  rw [save_of_saving hv hl hs, foldl_putBack_calls, putBackCalls, ← List.map_take, List.map_map]
  rfl

/-- A key that was not written when a write failed is as it was. -/
theorem lookup_save_of_notMem {key : String} (hk : key ∉ keys.take i) :
    (save (memory faults) c w).2.inner.lookup key = w.inner.lookup key := by
  rw [save_of_saving hv hl hs, lookup_foldl_putBack_of_notMem _ _ (by rwa [map_fst_before]),
    Table.lookup_setAll_of_notMem]
  rwa [List.map_take, map_fst_entries]

/-- A key that was written when a later write failed is as it was, unless putting it back failed
too. -/
theorem lookup_save_of_lt {j : Nat} {key value : String} (hj : j < i)
    (he : (entries c)[j]? = some (key, value)) :
    (save (memory faults) c w).2.inner.lookup key =
      if faults.failsAt (w.calls ++ loadCalls keys ++ (saveCalls keys).take (i + 1))
        ((putBackCalls w.inner).take i) j then some value
      else w.inner.lookup key := by
  have hk : (keys.take i)[j]? = some key := by
    rw [List.getElem?_take_of_lt hj, ← map_fst_entries c, List.getElem?_map, he]
    rfl
  have hn : (((keys.take i).map fun key => (key, w.inner.lookup key)).map (·.1)).Nodup := by
    rw [map_fst_before]
    exact nodup_keys.sublist (List.take_sublist i keys)
  have hm : (key, value) ∈ (entries c).take i :=
    List.mem_of_getElem? (i := j) (by rw [List.getElem?_take_of_lt hj, he])
  have hn' : (((entries c).take i).map (·.1)).Nodup := by
    rw [List.map_take, map_fst_entries]
    exact nodup_keys.sublist (List.take_sublist i keys)
  have hb : ((keys.take i).map fun key => (key, w.inner.lookup key))[j]?
      = some (key, w.inner.lookup key) := by
    rw [List.getElem?_map, hk]
    rfl
  rw [save_of_saving hv hl hs, lookup_foldl_putBack _ _ hn hb,
    Table.lookup_setAll_of_mem _ _ hn' hm, putBackCalls, ← List.map_take, List.map_map]
  rfl

end Saving

/-- What saving comes to in all: it is refused, it stops at a call that reads or at one that writes,
or every call goes through. -/
theorem save_cases (faults : Faults) (c : Settings) (w : Watched Memory) :
    (∃ e, c.validate = .error e)
      ∨ c.validate = .ok () ∧
        ((∃ i why, faults.first? w.calls (loadCalls keys) = some (i, why))
          ∨ faults.first? w.calls (loadCalls keys ++ saveCalls keys) = none
          ∨ faults.first? w.calls (loadCalls keys) = none
            ∧ ∃ i why, faults.first? (w.calls ++ loadCalls keys) (saveCalls keys)
              = some (i, why)) := by
  rcases hv : c.validate with e | u
  · exact .inl ⟨e, rfl⟩
  · refine .inr ⟨rfl, ?_⟩
    rcases hl : faults.first? w.calls (loadCalls keys) with _ | ⟨i, why⟩
    · rcases hs : faults.first? (w.calls ++ loadCalls keys) (saveCalls keys) with _ | ⟨i, why⟩
      · exact .inr (.inl (Faults.first?_append_eq_none_iff.2 ⟨hl, hs⟩))
      · exact .inr (.inr ⟨rfl, i, why, rfl⟩)
    · exact .inl ⟨i, why, rfl⟩

/-- No other key is ever touched. -/
theorem lookup_save_of_notMem_keys {key : String} (hk : key ∉ keys) :
    (save (memory faults) c w).2.inner.lookup key = w.inner.lookup key := by
  rcases save_cases faults c w with ⟨e, he⟩ | ⟨hv, ⟨i, why, hl⟩ | h | ⟨hl, i, why, hs⟩⟩
  · rw [save_of_invalid he]
  · rw [save_of_reading hv hl]
  · rw [save_of_passes hv h]
    exact Table.lookup_setAll_of_notMem _ _ (by rwa [map_fst_entries])
  · exact lookup_save_of_notMem hv hl hs fun h => hk (List.mem_of_mem_take h)

theorem save_eq_ok_iff :
    (save (memory faults) c w).1 = .ok () ↔
      c.validate = .ok () ∧ faults.first? w.calls (loadCalls keys ++ saveCalls keys) = none := by
  refine ⟨?_, ?_⟩
  · intro hok
    rcases save_cases faults c w with ⟨e, he⟩ | ⟨hv, ⟨i, why, hl⟩ | h | ⟨hl, i, why, hs⟩⟩
    · rw [save_of_invalid he] at hok
      cases hok
    · rw [save_of_reading hv hl] at hok
      cases hok
    · exact ⟨hv, h⟩
    · rw [save_of_saving hv hl hs] at hok
      cases hok
  · rintro ⟨hv, h⟩
    rw [save_of_passes hv h]

/-- Saving is all or nothing up to calls that fail while putting back. Invalid settings cause no
call. If a call that reads fails, none that writes is made. If no call fails, the three keys hold
the settings. If a call that writes fails, each key written before it is tried to be put back
whatever else fails, and has its value from before unless just that fails; the others are as they
were. Other keys than the three never change. -/
theorem save_atomic (faults : Faults) (c : Settings) (w : Watched Memory) :
    let result := (save (memory faults) c w).1
    let after := (save (memory faults) c w).2
    (∀ e, c.validate = .error e → result = .error (.refused e) ∧ after = w)
      ∧ (∀ i why, c.validate = .ok () →
        faults.first? w.calls (loadCalls keys) = some (i, why) →
          result = .error (.reading (keys.getD i "") why) ∧ after.inner = w.inner
            ∧ after.calls = w.calls ++ (loadCalls keys).take (i + 1))
      ∧ (result = .ok () ↔ c.validate = .ok ()
        ∧ faults.first? w.calls (loadCalls keys ++ saveCalls keys) = none)
      ∧ (result = .ok () → after.calls = w.calls ++ loadCalls keys ++ saveCalls keys
        ∧ ∀ key value, (key, value) ∈ entries c → after.inner.lookup key = some value)
      ∧ (∀ i why, c.validate = .ok () → faults.first? w.calls (loadCalls keys) = none →
        faults.first? (w.calls ++ loadCalls keys) (saveCalls keys) = some (i, why) →
          let written := w.calls ++ loadCalls keys ++ (saveCalls keys).take (i + 1)
          let putBacks := (putBackCalls w.inner).take i
          result = .error (.saving (keys.getD i "") why) ∧ after.calls = written ++ putBacks
            ∧ (∀ j key value, j < i → (entries c)[j]? = some (key, value) →
              after.inner.lookup key =
                if faults.failsAt written putBacks j then some value else w.inner.lookup key)
            ∧ ∀ key, key ∉ keys.take i → after.inner.lookup key = w.inner.lookup key)
      ∧ ∀ key, key ∉ keys → after.inner.lookup key = w.inner.lookup key := by
  refine ⟨fun e he => ?_, fun i why hv hl => ?_, save_eq_ok_iff, fun hok => ?_,
    fun i why hv hl hs => ?_, fun key hk => lookup_save_of_notMem_keys hk⟩
  · rw [save_of_invalid he]
    exact ⟨rfl, rfl⟩
  · rw [save_of_reading hv hl]
    exact ⟨rfl, rfl, rfl⟩
  · obtain ⟨hv, h⟩ := save_eq_ok_iff.1 hok
    rw [save_of_passes hv h]
    exact ⟨rfl, fun key value he => Table.lookup_setAll_of_mem _ _
      (by rw [map_fst_entries]; exact nodup_keys) he⟩
  · refine ⟨?_, save_calls_of_saving hv hl hs, fun j key value hj he =>
      lookup_save_of_lt hv hl hs hj he, fun key hk => lookup_save_of_notMem hv hl hs hk⟩
    rw [save_of_saving hv hl hs]

/-- An older session stands when the third write fails, and so does putting back the address: the
address is then the new one, while the name of the device is put back. -/
theorem save_atomic_of_broken_putBack :
    let c : Settings := .ofTexts "https://byte.example.com" "550e8400-e29b-41d4-a716-446655440000"
      "QkJCQkJCQkJCQkJCQkJCQkJCQkJCQkJCQkJCQkJCQkI="
    let w : Watched Memory := ⟨[("serverURL", "http://old"), ("deviceID", "old")], []⟩
    let faults : Faults := .ofList
      [⟨⟨.save, "secret"⟩, "full", none⟩, ⟨⟨.save, "serverURL"⟩, "full", some 2⟩]
    let after := (save (memory faults) c w).2
    (save (memory faults) c w).1 = .error (.saving "secret" "full")
      ∧ after.inner.lookup "serverURL" = some "https://byte.example.com"
      ∧ after.inner.lookup "deviceID" = some "old"
      ∧ after.inner.lookup "secret" = none := by
  intro c w faults after
  have hv : c.validate = .ok () := by
    subst c
    rfl
  have hs : faults.first? (w.calls ++ loadCalls keys) (saveCalls keys) = some (2, "full") := by
    decide
  obtain ⟨-, -, -, -, h, -⟩ := save_atomic faults c w
  obtain ⟨hr, -, hlt, hge⟩ := h 2 "full" hv (by decide) hs
  refine ⟨hr, ?_, ?_, ?_⟩
  · exact (hlt 0 _ _ (by decide) rfl).trans (if_pos (by decide))
  · exact (hlt 1 _ _ (by decide) rfl).trans (if_neg (by decide))
  · exact hge "secret" (by decide)

end Save

end Session

end DeviceAuth
