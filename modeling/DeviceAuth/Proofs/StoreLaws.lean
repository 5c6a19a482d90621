import Mathlib.Logic.Function.Basic
import Mathlib.Tactic.Common
import DeviceAuth.Proofs.Utf8
import DeviceAuth.Session
import DeviceAuth.Store.Keychain
import DeviceAuth.Store.Memory

/-!
# Stores that keep what they are given

In a faithful store no call fails, and a key has the text that was last saved under it. The store in
memory is faithful, and so is a service's store in a keychain that is there, refuses nothing and
holds only texts under the service. In a faithful store sessions are saved (`Session.save_faithful`)
and loaded (`Session.load_faithful`) without fail.
-/

namespace DeviceAuth

/-- From states in `ok` on, no call fails, and what `read` finds under the keys is what was last
saved there. -/
structure Store.Faithful {σ : Type} (S : Store σ) (ok : σ → Prop)
    (read : σ → String → Option String) : Prop where
  load : ∀ s, ok s → ∀ key, ∃ s', S.load key s = (.ok (read s key), s') ∧ ok s' ∧ read s' = read s
  save : ∀ s, ok s → ∀ key value, ∃ s', S.save key value s = (.ok (), s') ∧ ok s'
    ∧ read s' = Function.update (read s) key (some value)
  delete : ∀ s, ok s → ∀ key, ∃ s', S.delete key s = (.ok (), s') ∧ ok s'
    ∧ read s' = Function.update (read s) key none

theorem Memory.faithful :
    store.Faithful (fun _ => True) fun m key => m.lookup key where
  load m _ key := ⟨m, rfl, trivial, rfl⟩
  save m _ key value := by
    refine ⟨m.set key value, rfl, trivial, funext fun k => ?_⟩
    rw [Table.lookup_set, Function.update_apply]
  delete m _ key := by
    refine ⟨m.remove key, rfl, trivial, funext fun k => ?_⟩
    rw [Table.lookup_remove, Function.update_apply]

namespace Keychain

/-- The keychain is there and refuses nothing, and the service holds only texts. -/
structure InOrder (service : String) (k : Keychain) : Prop where
  present : k.missing = false
  unlocked : k.locked = []
  texts : ∀ key bytes, k.entries.lookup (service, key) = some bytes →
    ∃ value, bytes = Octets.ofString value

variable {service : String} {k : Keychain}

/-- The text that a service holds under a key. -/
def text? (service : String) (k : Keychain) (key : String) : Option String :=
  k.entries.lookup (service, key) >>= Octets.text?

theorem InOrder.refusal?_eq_none (h : InOrder service k) (call : StoreCall) :
    k.refusal? call = none := by
  simp [refusal?, h.present, h.unlocked]

theorem InOrder.load (h : InOrder service k) (key : String) :
    (store service).load key k = (.ok (text? service k key), k) := by
  simp only [store, h.refusal?_eq_none, text?]
  rcases hb : k.entries.lookup (service, key) with _ | bytes
  · rfl
  · obtain ⟨value, rfl⟩ := h.texts key bytes hb
    simp [Octets.text?_ofString]

theorem text?_set (service : String) (k : Keychain) (key value : String) :
    text? service { k with entries := k.entries.set (service, key) (.ofString value) }
      = Function.update (text? service k) key (some value) := by
  funext key'
  simp only [text?, Table.lookup_set, Function.update_apply, Prod.mk.injEq, true_and]
  split_ifs
  · exact Octets.text?_ofString value
  · rfl

theorem InOrder.save (h : InOrder service k) (key value : String) :
    ∃ k', (store service).save key value k = (.ok (), k') ∧ InOrder service k'
      ∧ text? service k' = Function.update (text? service k) key (some value) := by
  refine ⟨{ k with entries := k.entries.set (service, key) (.ofString value) }, ?_,
    ⟨h.present, h.unlocked, fun key' bytes hb => ?_⟩, text?_set service k key value⟩
  · simp only [store, h.refusal?_eq_none]
  · simp only [Table.lookup_set] at hb
    split_ifs at hb
    · exact ⟨value, (Option.some.inj hb).symm⟩
    · exact h.texts key' bytes hb

theorem InOrder.delete (h : InOrder service k) (key : String) :
    ∃ k', (store service).delete key k = (.ok (), k') ∧ InOrder service k'
      ∧ text? service k' = Function.update (text? service k) key none := by
  refine ⟨{ k with entries := k.entries.remove (service, key) }, ?_,
    ⟨h.present, h.unlocked, fun key' bytes hb => ?_⟩, funext fun key' => ?_⟩
  · simp only [store, h.refusal?_eq_none]
  · simp only [Table.lookup_remove] at hb
    split_ifs at hb
    exact h.texts key' bytes hb
  · simp only [text?, Table.lookup_remove, Function.update_apply, Prod.mk.injEq, true_and]
    split_ifs <;> rfl

theorem faithful (service : String) :
    (store service).Faithful (InOrder service) (text? service) where
  load k h key := ⟨k, h.load key, h, rfl⟩
  save _ h := h.save
  delete _ h := h.delete

end Keychain

namespace Session

variable {σ : Type} {S : Store σ} {ok : σ → Prop} {read : σ → String → Option String}

theorem loadAll_faithful (hS : S.Faithful ok read) : ∀ (keys : List String) {s : σ}, ok s →
    ∃ s', loadAll S keys s = (.ok (keys.map (read s)), s') ∧ ok s' ∧ read s' = read s
  | [], s, h => ⟨s, rfl, h, rfl⟩
  | key :: keys, s, h => by
    obtain ⟨s₁, hload, h₁, hread₁⟩ := hS.load s h key
    obtain ⟨s₂, hall, h₂, hread₂⟩ := loadAll_faithful hS keys h₁
    refine ⟨s₂, ?_, h₂, hread₂.trans hread₁⟩
    simp only [loadAll, hload, hall, hread₁, List.map_cons]

theorem saveAll_faithful (hS : S.Faithful ok read) :
    ∀ (entries : List (String × Option String × String)) (written : List (String × Option String))
      {s : σ}, ok s → ∃ s', saveAll S written entries s = (.ok (), s') ∧ ok s'
        ∧ read s' = entries.foldl
          (fun (f : String → Option String) e => Function.update f e.1 (some e.2.2)) (read s)
  | [], _, s, h => ⟨s, rfl, h, rfl⟩
  | (key, before, value) :: entries, written, s, h => by
    obtain ⟨s₁, hsave, h₁, hread₁⟩ := hS.save s h key value
    obtain ⟨s₂, hall, h₂, hread₂⟩ := saveAll_faithful hS entries (written ++ [(key, before)]) h₁
    refine ⟨s₂, ?_, h₂, ?_⟩
    · simp only [saveAll, hsave, hall]
    · rw [hread₂, hread₁, List.foldl_cons]

/-- The three keys of a session have the values of these settings. -/
def Holds (read : String → Option String) (c : Settings) : Prop :=
  keys.map read = (values c).map some

theorem save_faithful (hS : S.Faithful ok read) {c : Settings} (hc : c.validate = .ok ()) {s : σ}
    (h : ok s) : ∃ s', save S c s = (.ok (), s') ∧ ok s' ∧ Holds (read s') c := by
  obtain ⟨s₁, hload, h₁, -⟩ := loadAll_faithful hS keys h
  obtain ⟨s₂, hsave, h₂, hread⟩ :=
    saveAll_faithful hS (keys.zip ((keys.map (read s)).zip (values c))) [] h₁
  refine ⟨s₂, ?_, h₂, ?_⟩
  · simp only [save, hc, hload, hsave]
  · rw [Holds, hread]
    simp [keys, values, serverUrlKey, deviceIdKey, secretKey]

/-- Loading finds the settings that a store holds, and says what is wrong with them if they are
invalid. -/
theorem load_faithful (hS : S.Faithful ok read) {s : σ} (h : ok s) {c : Settings}
    (hc : Holds (read s) c) :
    (load S s).1 =
      match c.validate with
      | .ok () => .ok (some (.ofTexts c.serverUrl c.deviceId c.secret))
      | .error e => .error (.invalidStored e) := by
  obtain ⟨s', hload, -, -⟩ := loadAll_faithful hS keys h
  have hvalues : keys.map (read s) = (values c).map some := hc
  have hvalidate : (Settings.ofTexts c.serverUrl c.deviceId c.secret).validate = c.validate := rfl
  rcases hv : c.validate with e | u <;>
    simp only [load, hload, hvalues, values, List.map_cons, List.map_nil, ofValues, hvalidate, hv]

end Session

end DeviceAuth
