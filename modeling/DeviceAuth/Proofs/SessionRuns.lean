import Mathlib.Tactic.Common
import DeviceAuth.Proofs.SessionSave

/-!
# A stored session is never a mixture

Sessions are saved, loaded and removed in any order, and any calls of the store fail but those that
put entries back. Then what is stored of a session is of the one that was last saved
(`Consistent`), through every step (`Consistent.perform`) and so through every run
(`Consistent.run`): loading gives that session or none (`never_mixed`).
-/

namespace DeviceAuth

namespace Table

variable {κ ν : Type} [DecidableEq κ]

/-- The table without several keys. -/
def removeAll (t : Table κ ν) (keys : List κ) : Table κ ν := keys.foldl remove t

theorem lookup_removeAll : ∀ (keys : List κ) (t : Table κ ν) (k : κ),
    (t.removeAll keys).lookup k = if k ∈ keys then none else t.lookup k
  | [], _, _ => by simp [removeAll]
  | key :: keys, t, k => by
    rw [removeAll, List.foldl_cons, ← removeAll, lookup_removeAll keys, lookup_remove]
    by_cases hk : k ∈ keys <;> by_cases he : k = key <;> simp [hk, he]

end Table

namespace Session

open Watched (memory)

/-! ## Runs -/

/-- What is done with a session. -/
inductive Step
  | save (c : Settings)
  | load
  | clear
deriving DecidableEq

/-- What was done with a session, and what came of it. -/
inductive Event
  | saved (c : Settings) (result : Except Error Unit)
  | loaded (result : Except Error (Option Settings))
  | cleared (result : Except Error Unit)
deriving DecidableEq

section Run

variable {σ : Type} (S : Store σ)

def Step.perform : Step → σ → Event × σ
  | save c, s => (.saved c (Session.save S c s).1, (Session.save S c s).2)
  | load, s => (.loaded (Session.load S s).1, (Session.load S s).2)
  | clear, s => (.cleared (Session.clear S s).1, (Session.clear S s).2)

def run : List Step → σ → List Event × σ
  | [], s => ([], s)
  | step :: steps, s =>
    ((step.perform S s).1 :: (run steps (step.perform S s).2).1, (run steps (step.perform S s).2).2)

end Run

/-- The settings that were saved, if they were. -/
def Event.saved? : Event → Option Settings
  | saved c (.ok ()) => some c
  | _ => none

/-- The settings that were last saved. -/
def lastSaved? (past : List Event) : Option Settings := past.reverse.findSome? Event.saved?

/-- What happened since settings were last saved, the latest first. -/
def sinceSaved (past : List Event) : List Event :=
  past.reverse.takeWhile fun event => event.saved?.isNone

theorem lastSaved?_append_of_saved {event : Event} {c : Settings} (h : event.saved? = some c)
    (past : List Event) : lastSaved? (past ++ [event]) = some c := by
  simp [lastSaved?, h]

theorem sinceSaved_append_of_saved {event : Event} {c : Settings} (h : event.saved? = some c)
    (past : List Event) : sinceSaved (past ++ [event]) = [] := by
  simp [sinceSaved, h]

theorem lastSaved?_append_of_not_saved {event : Event} (h : event.saved? = none)
    (past : List Event) : lastSaved? (past ++ [event]) = lastSaved? past := by
  simp [lastSaved?, h]

theorem sinceSaved_append_of_not_saved {event : Event} (h : event.saved? = none)
    (past : List Event) : sinceSaved (past ++ [event]) = event :: sinceSaved past := by
  simp [sinceSaved, h]

/-! ## What a step does to the entries of a session -/

variable {faults : Faults} {c : Settings} {w : Watched Memory}

/-- If saving settings comes to putting entries back, every call that does so goes through. -/
def RollsBack (faults : Faults) (c : Settings) (w : Watched Memory) : Prop :=
  ∀ i why, c.validate = .ok () → faults.first? w.calls (loadCalls keys) = none →
    faults.first? (w.calls ++ loadCalls keys) (saveCalls keys) = some (i, why) →
      ∀ j < i, faults.failsAt (w.calls ++ loadCalls keys ++ (saveCalls keys).take (i + 1))
        ((putBackCalls w.inner).take i) j = false

/-- The same of a step that saves; there is nothing to put back in another. -/
def Step.RollsBack (faults : Faults) (w : Watched Memory) : Step → Prop
  | save c => Session.RollsBack faults c w
  | load | clear => True

/-- The same of all steps of a run. -/
def RunRollsBack (faults : Faults) : List Step → Watched Memory → Prop
  | [], _ => True
  | step :: steps, w =>
    step.RollsBack faults w ∧ RunRollsBack faults steps (step.perform (memory faults) w).2

def deleteCalls (keys : List String) : List StoreCall := keys.map fun key => ⟨.delete, key⟩

/-- Deleting goes on up to the first call that fails. -/
theorem deleteAll_memory : ∀ (keys : List String) (w : Watched Memory),
    deleteAll (memory faults) keys w =
      match faults.first? w.calls (deleteCalls keys) with
      | none => (.ok (),
          { inner := w.inner.removeAll keys, calls := w.calls ++ deleteCalls keys })
      | some (i, why) => (.error (.store why),
          { inner := w.inner.removeAll (keys.take i)
            calls := w.calls ++ (deleteCalls keys).take (i + 1) })
  | [], w => by simp [deleteAll, deleteCalls, Faults.first?, Table.removeAll]
  | key :: keys, w => by
    rcases hc : faults w.calls ⟨.delete, key⟩ with _ | why
    · have ih := deleteAll_memory keys
        { inner := w.inner.remove key, calls := w.calls ++ [⟨.delete, key⟩] }
      rw [deleteCalls, List.map_cons, ← deleteCalls, Faults.first?_cons_of_passes hc, deleteAll,
        memory_delete_of_passes hc]
      simp only [ih]
      rcases hf : faults.first? (w.calls ++ [⟨.delete, key⟩]) (deleteCalls keys) with _ | ⟨i, why⟩
        <;> simp [hf, Table.removeAll]
    · rw [deleteCalls, List.map_cons, Faults.first?_cons_of_fails hc, deleteAll,
        memory_delete_of_fails hc]
      simp [Table.removeAll]

/-- Loading a session reads its entries and changes none. -/
theorem load_memory (w : Watched Memory) :
    load (memory faults) w =
      match faults.first? w.calls (loadCalls keys) with
      | none => (ofValues (keys.map fun key => w.inner.lookup key),
          { w with calls := w.calls ++ loadCalls keys })
      | some (i, why) => (.error (.store why),
          { w with calls := w.calls ++ (loadCalls keys).take (i + 1) }) := by
  simp only [load, loadAll_memory]
  rcases faults.first? w.calls (loadCalls keys) with _ | ⟨i, why⟩ <;> rfl

theorem inner_load (faults : Faults) (w : Watched Memory) :
    (load (memory faults) w).2.inner = w.inner := by
  rw [load_memory]
  rcases faults.first? w.calls (loadCalls keys) with _ | ⟨i, why⟩ <;> rfl

/-- Removing a session goes as far as a call fails, and leaves the rest as it is. -/
theorem lookup_clear (w : Watched Memory) (key : String) :
    (clear (memory faults) w).2.inner.lookup key = none
      ∨ (clear (memory faults) w).2.inner.lookup key = w.inner.lookup key := by
  rw [clear, deleteAll_memory]
  rcases faults.first? w.calls (deleteCalls keys) with _ | ⟨i, why⟩
  all_goals
    simp only [Table.lookup_removeAll]
    split_ifs
    · exact .inl rfl
    · exact .inr rfl

theorem lookup_clear_of_ok {key : String} (h : (clear (memory faults) w).1 = .ok ())
    (hk : key ∈ keys) : (clear (memory faults) w).2.inner.lookup key = none := by
  rw [clear, deleteAll_memory] at h ⊢
  rcases hf : faults.first? w.calls (deleteCalls keys) with _ | ⟨i, why⟩
  · simp only [Table.lookup_removeAll, if_pos hk]
  · rw [hf] at h
    cases h

theorem lookup_save_of_ok {key value : String} (h : (save (memory faults) c w).1 = .ok ())
    (he : (key, value) ∈ entries c) :
    (save (memory faults) c w).2.inner.lookup key = some value := by
  obtain ⟨hv, hp⟩ := save_eq_ok_iff.1 h
  rw [save_of_passes hv hp]
  exact Table.lookup_setAll_of_mem _ _ (by rw [map_fst_entries]; exact nodup_keys) he

/-- A saving that fails leaves every key as it was, if all is put back that was written before the
call that failed. -/
theorem lookup_save_of_ne_ok (hr : RollsBack faults c w)
    (h : (save (memory faults) c w).1 ≠ .ok ()) (key : String) :
    (save (memory faults) c w).2.inner.lookup key = w.inner.lookup key := by
  rcases save_cases faults c w with ⟨e, he⟩ | ⟨hv, ⟨i, why, hl⟩ | hp | ⟨hl, i, why, hs⟩⟩
  · rw [save_of_invalid he]
  · rw [save_of_reading hv hl]
  · exact absurd (save_eq_ok_iff.2 ⟨hv, hp⟩) h
  · by_cases hk : key ∈ keys.take i
    · obtain ⟨j, hj⟩ := List.mem_iff_getElem?.1 hk
      rw [List.getElem?_take, Option.ite_none_right_eq_some] at hj
      obtain ⟨hji, hj⟩ := hj
      obtain ⟨⟨_, value⟩, he, rfl⟩ : ∃ e, (entries c)[j]? = some e ∧ e.1 = key := by
        rwa [← map_fst_entries c, List.getElem?_map, Option.map_eq_some_iff] at hj
      rw [lookup_save_of_lt hv hl hs hji he, hr i why hv hl hs j hji]
      rfl
    · exact lookup_save_of_notMem hv hl hs hk

/-- All that a step can do to the entries of a session: it sets them, it leaves them, or it removes
some. -/
theorem Step.perform_cases (step : Step) (hr : step.RollsBack faults w) :
    let event := (step.perform (memory faults) w).1
    let after := (step.perform (memory faults) w).2.inner
    (∃ c, event = .saved c (.ok ()) ∧ c.validate = .ok ()
        ∧ ∀ key value, (key, value) ∈ entries c → after.lookup key = some value)
      ∨ (event.saved? = none ∧ (∀ result, event ≠ .cleared result)
        ∧ ∀ key, after.lookup key = w.inner.lookup key)
      ∨ ∃ result, event = .cleared result
        ∧ (∀ key, after.lookup key = none ∨ after.lookup key = w.inner.lookup key)
        ∧ (result = .ok () → ∀ key ∈ keys, after.lookup key = none) := by
  intro event after
  cases step with
  | save c =>
    by_cases h : (Session.save (memory faults) c w).1 = .ok ()
    · exact .inl ⟨c, congrArg (Event.saved c) h, (save_eq_ok_iff.1 h).1,
        fun key value he => lookup_save_of_ok h he⟩
    · refine .inr (.inl ⟨?_, fun result => nofun, lookup_save_of_ne_ok hr h⟩)
      rcases hs : (Session.save (memory faults) c w).1 with e | u
      · exact congrArg (fun r => (Event.saved c r).saved?) hs
      · exact absurd hs h
  | load =>
    refine .inr (.inl ⟨rfl, fun result => nofun, fun key => ?_⟩)
    rw [← inner_load faults w]
    rfl
  | clear => exact .inr (.inr ⟨_, rfl, lookup_clear w, fun h key hk => lookup_clear_of_ok h hk⟩)

/-! ## What is stored after a run -/

/-- What is stored of a session is of the one that was last saved: all of it, if none was removed
since then, and nothing of it, if one was. -/
structure Consistent (past : List Event) (m : Memory) : Prop where
  valid : ∀ c, lastSaved? past = some c → c.validate = .ok ()
  ofLast : ∀ key ∈ keys, ∀ value, m.lookup key = some value →
    ∃ c, lastSaved? past = some c ∧ (key, value) ∈ entries c
  whole : ∀ c, lastSaved? past = some c → (∀ result, .cleared result ∉ sinceSaved past) →
    ∀ key value, (key, value) ∈ entries c → m.lookup key = some value
  gone : .cleared (.ok ()) ∈ sinceSaved past → ∀ key ∈ keys, m.lookup key = none

theorem Consistent.nil {m : Memory} (h : ∀ key ∈ keys, m.lookup key = none) :
    Consistent [] m where
  valid := by simp [lastSaved?]
  ofLast key hk value hm := by simp [h key hk] at hm
  whole := by simp [lastSaved?]
  gone _ := h

/-- Settings have a value for each key of a session and for no other. -/
theorem mem_keys_iff (c : Settings) {key : String} :
    key ∈ keys ↔ ∃ value, (key, value) ∈ entries c := by
  rw [← map_fst_entries c, List.mem_map]
  refine ⟨?_, fun ⟨value, he⟩ => ⟨(key, value), he, rfl⟩⟩
  rintro ⟨⟨_, value⟩, he, rfl⟩
  exact ⟨value, he⟩

theorem mem_entries_unique {c : Settings} {key value value' : String}
    (h : (key, value) ∈ entries c) (h' : (key, value') ∈ entries c) : value = value' := by
  have hn : ((entries c).map (·.1)).Nodup := by
    rw [map_fst_entries]
    exact nodup_keys
  have hv := Table.lookup_setAll_of_mem (entries c) [] hn h
  rw [Table.lookup_setAll_of_mem (entries c) [] hn h'] at hv
  exact (Option.some.inj hv).symm

theorem Consistent.of_saved {past : List Event} {event : Event} {c : Settings} {m : Memory}
    (he : event.saved? = some c) (hv : c.validate = .ok ())
    (hset : ∀ key value, (key, value) ∈ entries c → m.lookup key = some value) :
    Consistent (past ++ [event]) m where
  valid c' hc' := by
    rw [lastSaved?_append_of_saved he] at hc'
    obtain rfl := Option.some.inj hc'
    exact hv
  ofLast key hk value hm := by
    obtain ⟨value', hmem⟩ := (mem_keys_iff c).1 hk
    rw [hset key value' hmem] at hm
    obtain rfl := Option.some.inj hm
    exact ⟨c, lastSaved?_append_of_saved he past, hmem⟩
  whole c' hc' _ := by
    rw [lastSaved?_append_of_saved he] at hc'
    obtain rfl := Option.some.inj hc'
    exact hset
  gone hc := by
    rw [sinceSaved_append_of_saved he] at hc
    exact absurd hc List.not_mem_nil

/-- No settings were just saved. Some entries may be gone, if a session was to be removed, and all
are if it was. -/
theorem Consistent.of_not_saved {past : List Event} {event : Event} {m m' : Memory}
    (h : Consistent past m) (he : event.saved? = none)
    (hsub : ∀ key, m'.lookup key = none ∨ m'.lookup key = m.lookup key)
    (hsame : (∀ result, event ≠ .cleared result) → ∀ key, m'.lookup key = m.lookup key)
    (hgone : event = .cleared (.ok ()) → ∀ key ∈ keys, m'.lookup key = none) :
    Consistent (past ++ [event]) m' where
  valid := by
    rw [lastSaved?_append_of_not_saved he]
    exact h.valid
  ofLast key hk value hm := by
    rw [lastSaved?_append_of_not_saved he]
    rcases hsub key with hn | hs
    · rw [hn] at hm
      cases hm
    · exact h.ofLast key hk value (hs ▸ hm)
  whole c hc hno key value hmem := by
    rw [lastSaved?_append_of_not_saved he] at hc
    simp only [sinceSaved_append_of_not_saved he, List.mem_cons, not_or] at hno
    rw [hsame fun result => Ne.symm (hno result).1]
    exact h.whole c hc (fun result => (hno result).2) key value hmem
  gone hc key hk := by
    rw [sinceSaved_append_of_not_saved he] at hc
    rcases List.mem_cons.1 hc with hc | hc
    · exact hgone hc.symm key hk
    · rcases hsub key with hn | hs
      · exact hn
      · rw [hs, h.gone hc key hk]

theorem Consistent.perform {past : List Event} (h : Consistent past w.inner) (step : Step)
    (hr : step.RollsBack faults w) :
    Consistent (past ++ [(step.perform (memory faults) w).1])
      (step.perform (memory faults) w).2.inner := by
  rcases step.perform_cases hr with ⟨c, he, hv, hset⟩ | ⟨he, hne, hsame⟩ | ⟨result, he, hsub, hok⟩
  · exact .of_saved (by rw [he]; rfl) hv hset
  · exact h.of_not_saved he (fun key => .inr (hsame key)) (fun _ => hsame)
      fun hc => absurd hc (hne _)
  · refine h.of_not_saved (by rw [he]; rfl) hsub (fun hne => absurd he (hne result)) fun hc => ?_
    rw [he] at hc
    exact hok (Event.cleared.inj hc)

theorem Consistent.run : ∀ (steps : List Step) {past : List Event} {w : Watched Memory},
    Consistent past w.inner → RunRollsBack faults steps w →
      Consistent (past ++ (run (memory faults) steps w).1) (run (memory faults) steps w).2.inner
  | [], past, w, h, _ => by simpa [Session.run] using h
  | step :: steps, past, w, h, hr => by
    have := Consistent.run steps (h.perform step hr.1) hr.2
    rwa [List.append_assoc] at this

theorem RunRollsBack.take : ∀ {steps : List Step} {w : Watched Memory},
    RunRollsBack faults steps w → ∀ n, RunRollsBack faults (steps.take n) w
  | [], _, _, n => by simp [RunRollsBack]
  | _ :: _, _, _, 0 => trivial
  | _ :: _, _, h, n + 1 => ⟨h.1, h.2.take n⟩

/-! ## What loading gives after a run -/

theorem ofValues_of_none_mem {values : List (Option String)} (h : none ∈ values) :
    ofValues values = .ok none := by
  unfold ofValues
  split
  · simp at h
  · rfl

theorem ofValues_of_valid {c : Settings} (hv : c.validate = .ok ()) :
    ofValues ((values c).map some) = .ok (some ⟨c.serverUrl, c.deviceId, c.secret, 30⟩) := by
  have h : (Settings.ofTexts c.serverUrl c.deviceId c.secret).validate = .ok () := hv
  simp only [values, List.map_cons, List.map_nil, ofValues, h]
  rfl

theorem map_lookup_keys {c : Settings} {m : Memory}
    (h : ∀ key value, (key, value) ∈ entries c → m.lookup key = some value) :
    (keys.map fun key => m.lookup key) = (values c).map some := by
  have hentries : (entries c).map (fun e => m.lookup e.1) = (entries c).map fun e => some e.2 :=
    List.map_congr_left fun e he => h e.1 e.2 he
  exact hentries

/-- What loading finds: a call fails, or an entry is missing and there is no session, or the last
session is there as a whole. -/
theorem Consistent.load_cases {past : List Event} (h : Consistent past w.inner) (faults : Faults) :
    (∃ i why, faults.first? w.calls (loadCalls keys) = some (i, why)
        ∧ (load (memory faults) w).1 = .error (.store why))
      ∨ ((∃ key ∈ keys, w.inner.lookup key = none) ∧ (load (memory faults) w).1 = .ok none)
      ∨ ∃ c, lastSaved? past = some c
        ∧ (∀ key value, (key, value) ∈ entries c → w.inner.lookup key = some value)
        ∧ (load (memory faults) w).1 = .ok (some ⟨c.serverUrl, c.deviceId, c.secret, 30⟩) := by
  rw [load_memory]
  rcases faults.first? w.calls (loadCalls keys) with _ | ⟨i, why⟩
  · right
    by_cases hn : ∃ key ∈ keys, w.inner.lookup key = none
    · exact .inl ⟨hn, ofValues_of_none_mem (List.mem_map.2 hn)⟩
    · have hfound : ∀ key ∈ keys, ∃ value c, w.inner.lookup key = some value
          ∧ lastSaved? past = some c ∧ (key, value) ∈ entries c := by
        intro key hk
        rcases hm : w.inner.lookup key with _ | value
        · exact absurd ⟨key, hk, hm⟩ hn
        · obtain ⟨c, hc, he⟩ := h.ofLast key hk value hm
          exact ⟨value, c, rfl, hc, he⟩
      obtain ⟨-, c, -, hc, -⟩ := hfound serverUrlKey (by decide)
      have hset : ∀ key value, (key, value) ∈ entries c → w.inner.lookup key = some value := by
        intro key value he
        obtain ⟨value', c', hm, hc', he'⟩ := hfound key ((mem_keys_iff c).2 ⟨value, he⟩)
        obtain rfl := Option.some.inj (hc'.symm.trans hc)
        rw [hm, mem_entries_unique he he']
      refine .inr ⟨c, hc, hset, ?_⟩
      simp only [map_lookup_keys hset, ofValues_of_valid (h.valid c hc)]
  · exact .inl ⟨i, why, rfl, rfl⟩

/-- Sessions are saved, loaded and removed in any order, on a store that held none at first, and any
calls may fail but those that put entries back. At any time, each entry that is there is the one of
the session that was last saved, and loading gives just that session, or none, or fails because a
call does; it never finds one that is invalid. If no call fails, it gives the session if none was to
be removed since, and none if one was. -/
theorem never_mixed (faults : Faults) (w : Watched Memory)
    (hw : ∀ key ∈ keys, w.inner.lookup key = none) (steps : List Step)
    (hr : RunRollsBack faults steps w) (n : Nat) :
    let past := (run (memory faults) (steps.take n) w).1
    let here := (run (memory faults) (steps.take n) w).2
    let loaded := (load (memory faults) here).1
    (∀ key ∈ keys, ∀ value, here.inner.lookup key = some value →
        ∃ c, lastSaved? past = some c ∧ (key, value) ∈ entries c)
      ∧ (∀ found, loaded = .ok (some found) → ∃ c, lastSaved? past = some c
        ∧ found = ⟨c.serverUrl, c.deviceId, c.secret, 30⟩)
      ∧ (∀ e, loaded ≠ .error (.invalidStored e))
      ∧ (faults.first? here.calls (loadCalls keys) = none →
        (∀ c, lastSaved? past = some c → (∀ result, .cleared result ∉ sinceSaved past) →
          loaded = .ok (some ⟨c.serverUrl, c.deviceId, c.secret, 30⟩))
        ∧ (.cleared (.ok ()) ∈ sinceSaved past → loaded = .ok none)) := by
  intro past here loaded
  have h : Consistent past here.inner := by
    simpa using (Consistent.nil hw).run (steps.take n) (hr.take n)
  refine ⟨h.ofLast, ?_⟩
  rcases h.load_cases faults with
    ⟨i, why, hl, hv⟩ | ⟨⟨key, hk, hn⟩, hv⟩ | ⟨c, hc, hset, hv⟩
  · refine ⟨fun found hf => ?_, fun e he => ?_, fun hnone => ?_⟩
    · cases hv.symm.trans hf
    · cases hv.symm.trans he
    · cases hl.symm.trans hnone
  · refine ⟨fun found hf => ?_, fun e he => ?_, fun _ => ⟨fun c hc hno => ?_, fun _ => hv⟩⟩
    · cases hv.symm.trans hf
    · cases hv.symm.trans he
    · obtain ⟨value, he⟩ := (mem_keys_iff c).1 hk
      cases hn.symm.trans (h.whole c hc hno key value he)
  · refine ⟨fun found hf => ⟨c, hc, ?_⟩, fun e he => ?_,
      fun _ => ⟨fun c' hc' _ => ?_, fun hg => ?_⟩⟩
    · exact Option.some.inj (Except.ok.inj (hf.symm.trans hv))
    · cases hv.symm.trans he
    · obtain rfl := Option.some.inj (hc.symm.trans hc')
      exact hv
    · have hk : serverUrlKey ∈ keys := by decide
      obtain ⟨value, he⟩ := (mem_keys_iff c).1 hk
      cases (hset _ _ he).symm.trans (h.gone hg serverUrlKey hk)

/-- A second session fails to be written at its last entry, and the first is put back. -/
theorem never_mixed_of_failed_overwrite :
    let c : Settings := .ofTexts "https://byte.example.com" "550e8400-e29b-41d4-a716-446655440000"
      "QkJCQkJCQkJCQkJCQkJCQkJCQkJCQkJCQkJCQkJCQkI="
    let other : Settings := .ofTexts "https://other.example.com"
      "6ba7b810-9dad-41d1-80b4-00c04fd430c8" "QUFBQUFBQUFBQUFBQUFBQUFBQUFBQUFBQUFBQUFBQUE="
    let w : Watched Memory := ⟨[], []⟩
    let faults : Faults := .ofList [⟨⟨.save, "secret"⟩, "full", some 2⟩]
    let after := run (memory faults) [.save c, .save other] w
    after.1 = [.saved c (.ok ()), .saved other (.error (.saving "secret" "full"))]
      ∧ (load (memory faults) after.2).1 = .ok (some c) := by
  intro c other w faults after
  have hv : c.validate = .ok () := by decide +kernel
  have hevents :
      after.1 = [.saved c (.ok ()), .saved other (.error (.saving "secret" "full"))] := by
    decide +kernel
  have hsave : save (memory faults) c w
      = (.ok (), ⟨w.inner.setAll (entries c), w.calls ++ loadCalls keys ++ saveCalls keys⟩) :=
    save_of_passes hv (by decide)
  have hr : RunRollsBack faults [.save c, .save other] w := by
    refine ⟨fun i why _ _ hs => ?_, fun i why _ _ hs => ?_, trivial⟩
    · have hnone : faults.first? (w.calls ++ loadCalls keys) (saveCalls keys) = none := by decide
      cases hnone.symm.trans hs
    · rw [Step.perform, hsave] at hs ⊢
      have hlast : faults.first? (w.calls ++ loadCalls keys ++ saveCalls keys ++ loadCalls keys)
        (saveCalls keys) = some (2, "full") := by decide
      obtain ⟨rfl, -⟩ := Prod.mk.inj (Option.some.inj (hs.symm.trans hlast))
      decide
  obtain ⟨-, -, -, hload⟩ := never_mixed faults w (fun _ _ => rfl) _ hr 2
  have hlast : lastSaved? after.1 = some c := by rw [hevents]; rfl
  have hsince : ∀ result, .cleared result ∉ sinceSaved after.1 := by
    rw [hevents]
    simp [sinceSaved, Event.saved?]
  exact ⟨hevents, (hload (by decide +kernel)).1 c hlast hsince⟩

end Session

end DeviceAuth
