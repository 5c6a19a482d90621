import Mathlib.Tactic.Common
import DeviceAuth.Command.Settings
import DeviceAuth.Proofs.Invitation
import DeviceAuth.Proofs.KeychainRefinement
import DeviceAuth.Proofs.Result

/-!
# What a successful import has stored

A keychain may say that an entry was saved and hold on to the old one. After an import that
succeeds every entry of the session is the one of the invitation or, where its save was lost, the
one that was there before, and reading back shows no more than that there is a device's name. So
what is lost is noticed in a keychain that had no session and loses all saves or none, but not if
the keychain held another session, or loses only some of them (`Command.import_stores`).
-/

namespace DeviceAuth

/-- A store whose saves under some keys are lost: each is said to have succeeded, and the store
holds what it held before. A session is saved key by key, so any of its saves can be lost. -/
def Store.losing {σ : Type} (S : Store σ) (lost : String → Bool) : Store σ where
  save key value s := if lost key then (.ok (), s) else S.save key value s
  load := S.load
  delete := S.delete

namespace Settings

theorem ofInvitation_eq_ok_iff {json : String} {c : Settings} :
    ofInvitation json = .ok c ↔
      ∃ i, Invitation.ofJson json = .ok i ∧ i.settings.validate = .ok () ∧ c = i.settings := by
  simp only [ofInvitation, Except.bind_eq_ok_iff]
  refine ⟨?_, ?_⟩
  · rintro ⟨i, hi, ⟨⟩, hv, hc⟩
    exact ⟨i, hi, hv, (Except.ok.inj hc).symm⟩
  · rintro ⟨i, hi, hv, rfl⟩
    exact ⟨i, hi, (), hv, rfl⟩

end Settings

namespace Session

variable {i : Invitation}

/-- A session is loaded as these settings if and only if its keys have their values. -/
theorem ofValues_eq_some_iff (hv : i.settings.validate = .ok ()) {vs : List (Option String)} :
    ofValues vs = .ok (some i.settings) ↔ vs = (values i.settings).map some := by
  refine ⟨fun h => ?_, ?_⟩
  · unfold ofValues at h
    split at h
    · simp only [] at h
      split at h
      · rw [← Option.some.inj (Except.ok.inj h)]
        rfl
      · cases h
    · cases h
  · rintro rfl
    exact ofValues_of_valid hv

/-- What the keys of a session hold once settings were saved over `before`, some saves being
lost. -/
def leftBy (lost : String → Bool) (before : String → Option String) (c : Settings) :
    List (Option String) :=
  List.zipWith (fun key value => if lost key then before key else some value) keys (values c)

theorem leftBy_eq_values_iff {lost : String → Bool} {before : String → Option String}
    {c : Settings} : leftBy lost before c = (values c).map some ↔
      ∀ e ∈ entries c, lost e.1 = true → before e.1 = some e.2 := by
  have hentry (key value : String) : (if lost key then before key else some value) = some value ↔
      (lost key = true → before key = some value) := by
    split_ifs with h <;> simp [h]
  simp [leftBy, entries, keys, values, hentry]

theorem deviceId_of_leftBy {lost : String → Bool} {before after : String → Option String}
    {c : Settings} (h : keys.map after = leftBy lost before c) :
    after deviceIdKey = if lost deviceIdKey then before deviceIdKey else some c.deviceId :=
  (List.cons.inj (List.cons.inj h).2).1

variable {σ : Type}

/-- Lost saves do not matter to loading. -/
theorem loadAll_losing (S : Store σ) (lost : String → Bool) : ∀ (keys : List String) (s : σ),
    loadAll (S.losing lost) keys s = loadAll S keys s
  | [], _ => rfl
  | key :: keys, s => by
    simp only [loadAll, Store.losing, ← loadAll_losing S lost keys]

theorem load_losing (S : Store σ) (lost : String → Bool) (s : σ) :
    load (S.losing lost) s = load S s := by
  simp only [load, loadAll_losing]

end Session

namespace Keychain

open Session (keys values loadAll saveAll leftBy)

variable {service : String} {lost : String → Bool} {k k' : Keychain} {key value : String}
  {c : Settings}

/-- A service of a keychain that loses saves. -/
def losingService (service : String) (lost : String → Bool) (k : Keychain) :
    Command.Service Keychain :=
  ⟨service, (store service).losing lost, k.isAvailable⟩

/-- Loading the key does not fail. -/
def Legible (service : String) (k : Keychain) (key : String) : Prop :=
  (store service).load key k = (.ok (text? service k key), k)

theorem legible_iff : Legible service k key ↔
    k.refusal? ⟨.load, key⟩ = none ∧ ¬ Unreadable service k key := by
  simp only [Legible, Unreadable, store, text?]
  rcases k.refusal? ⟨.load, key⟩ with _ | why
  · rcases k.entries.lookup (service, key) with _ | bytes
    · simp
    · rcases ht : Octets.text? bytes with _ | value <;> simp [ht]
  · simp

theorem Unreadable.text?_eq_none (h : Unreadable service k key) : text? service k key = none := by
  obtain ⟨bytes, hb, ht⟩ := h
  simp [text?, hb, ht]

theorem load_cases (service : String) (k : Keychain) (key : String) :
    Legible service k key ∨ ∃ why, (store service).load key k = (.error why, k) := by
  simp only [Legible, store, text?]
  rcases k.refusal? ⟨.load, key⟩ with _ | why
  · rcases k.entries.lookup (service, key) with _ | bytes
    · exact .inl rfl
    · rcases ht : Octets.text? bytes with _ | value <;> simp [ht]
  · exact .inr ⟨why, rfl⟩

/-- A save keeps the other keys and all locks as they are, so all that could be loaded can be loaded
after it. -/
theorem save_eq_ok (h : (store service).save key value k = (.ok (), k')) :
    text? service k' = Function.update (text? service k) key (some value)
      ∧ ∀ key', Legible service k key' → Legible service k' key' := by
  simp only [store] at h
  split at h
  · cases h
  · obtain rfl := (Prod.mk.inj h).2
    refine ⟨text?_set service k key value, fun key' hl => ?_⟩
    obtain ⟨hrefusal, hreadable⟩ := legible_iff.1 hl
    refine legible_iff.2 ⟨hrefusal, ?_⟩
    rintro ⟨bytes, hb, ht⟩
    rw [Table.lookup_set] at hb
    split_ifs at hb
    · obtain rfl := Option.some.inj hb
      cases (Octets.text?_ofString value).symm.trans ht
    · exact hreadable ⟨bytes, hb, ht⟩

theorem losing_save_eq_ok
    (h : ((store service).losing lost).save key value k = (.ok (), k')) :
    text? service k' = (if lost key then text? service k
        else Function.update (text? service k) key (some value))
      ∧ ∀ key', Legible service k key' → Legible service k' key' := by
  simp only [Store.losing] at h
  split_ifs at h with hlost
  · obtain rfl := (Prod.mk.inj h).2
    rw [if_pos hlost]
    exact ⟨rfl, fun _ hl => hl⟩
  · rw [if_neg hlost]
    exact save_eq_ok h

theorem loadAll_of_legible : ∀ {keys : List String}, (∀ key ∈ keys, Legible service k key) →
    loadAll (store service) keys k = (.ok (keys.map (text? service k)), k)
  | [], _ => rfl
  | key :: keys, h => by
    obtain ⟨hl, hkeys⟩ := List.forall_mem_cons.1 h
    rw [Legible] at hl
    simp only [loadAll, hl, loadAll_of_legible hkeys, List.map_cons]

theorem legible_of_loadAll : ∀ {keys : List String} {values : List (Option String)},
    (loadAll (store service) keys k).1 = .ok values → ∀ key ∈ keys, Legible service k key
  | [], _, _ => by simp
  | key :: keys, values, h => by
    rcases load_cases service k key with hl | ⟨why, hl⟩
    · rcases hall : loadAll (store service) keys k with ⟨e | values', k'⟩
      · rw [Legible] at hl
        simp [loadAll, hl, hall] at h
      · exact List.forall_mem_cons.2 ⟨hl, legible_of_loadAll (congrArg Prod.fst hall)⟩
    · simp [loadAll, hl] at h

theorem losing_saveAll_eq_ok : ∀ {entries : List (String × Option String × String)}
    {written : List (String × Option String)} {k : Keychain},
    saveAll ((store service).losing lost) written entries k = (.ok (), k') →
      text? service k' = entries.foldl (fun (f : String → Option String) e =>
          if lost e.1 then f else Function.update f e.1 (some e.2.2)) (text? service k)
        ∧ ∀ key, Legible service k key → Legible service k' key
  | [], _, k, h => by
    obtain rfl := (Prod.mk.inj h).2
    exact ⟨rfl, fun _ hl => hl⟩
  | (key, before, value) :: entries, written, k, h => by
    rcases hs : ((store service).losing lost).save key value k with ⟨why | u, k₁⟩
    · rw [saveAll, hs] at h
      cases h
    · rw [saveAll, hs] at h
      obtain ⟨htext₁, hlegible₁⟩ := losing_save_eq_ok hs
      obtain ⟨htext, hlegible⟩ := losing_saveAll_eq_ok h
      refine ⟨?_, fun key' hl => hlegible key' (hlegible₁ key' hl)⟩
      rw [htext, htext₁, List.foldl_cons]

/-- Settings that were saved are in their keys, except where the save was lost: all was written, so
nothing was put back. -/
theorem losing_save_session (h : Session.save ((store service).losing lost) c k = (.ok (), k')) :
    keys.map (text? service k') = leftBy lost (text? service k) c
      ∧ ∀ key ∈ keys, Legible service k' key := by
  rcases hv : c.validate with e | u
  · simp [Session.save, hv] at h
  · rcases hload : loadAll (store service) keys k with ⟨⟨key, why⟩ | before, k₁⟩
    · simp [Session.save, hv, Session.loadAll_losing, hload] at h
    · have hl := legible_of_loadAll (congrArg Prod.fst hload)
      obtain ⟨rfl, rfl⟩ : keys.map (text? service k) = before ∧ k = k₁ := by
        simpa [loadAll_of_legible hl] using hload
      simp only [Session.save, hv, Session.loadAll_losing, hload] at h
      obtain ⟨htext, hlegible⟩ := losing_saveAll_eq_ok h
      refine ⟨?_, fun key hm => hlegible key (hl key hm)⟩
      rw [htext]
      simp [keys, values, leftBy, Session.serverUrlKey, Session.deviceIdKey, Session.secretKey,
        ite_apply]

/-- In a keychain that works no save fails, lost or not. -/
theorem Works.losing_saveAll : ∀ (entries : List (String × Option String × String))
    (written : List (String × Option String)) {k : Keychain}, Works k →
    ∃ k', saveAll ((store service).losing lost) written entries k = (.ok (), k')
  | [], _, k, _ => ⟨k, rfl⟩
  | (key, before, value) :: entries, written, k, hk => by
    have hsave : ∃ k₁, ((store service).losing lost).save key value k = (.ok (), k₁)
        ∧ Works k₁ := by
      simp only [Store.losing, store, hk.refusal?_eq_none]
      split_ifs
      · exact ⟨k, rfl, hk⟩
      · exact ⟨_, rfl, hk.present, hk.unlocked⟩
    obtain ⟨k₁, hs, hk₁⟩ := hsave
    obtain ⟨k', hall⟩ := Works.losing_saveAll entries (written ++ [(key, before)]) hk₁
    exact ⟨k', by simp only [saveAll, hs, hall]⟩

theorem Works.losing_save_session (hk : Works k) (hv : c.validate = .ok ())
    (hkeys : ∀ key ∈ keys, ¬ Unreadable service k key) :
    ∃ k', Session.save ((store service).losing lost) c k = (.ok (), k') := by
  have hl : ∀ key ∈ keys, Legible service k key := fun key hm =>
    legible_iff.2 ⟨hk.refusal?_eq_none _, hkeys key hm⟩
  obtain ⟨k', hall⟩ : ∃ k', saveAll ((store service).losing lost) []
      (keys.zip ((keys.map (text? service k)).zip (values c))) k = (.ok (), k') :=
    Works.losing_saveAll _ [] hk
  exact ⟨k', by simp only [Session.save, hv, Session.loadAll_losing, loadAll_of_legible hl, hall]⟩

end Keychain

namespace Command

open Session (keys entries leftBy deviceIdKey)
open Keychain (losingService text? Works Unreadable)

/-- An import succeeds if the invitation is valid, the session is saved, and there is a device's
name when it is read back. -/
theorem importSession_eq_ok_iff {σ : Type} {K : Service σ} {payload output : String} {s s' : σ} :
    importSession K payload s = (.ok output, s') ↔
      K.available = true ∧ ∃ i s₁ id, Invitation.ofJson payload = .ok i
        ∧ i.settings.validate = .ok () ∧ Session.save K.store i.settings s = (.ok (), s₁)
        ∧ K.store.load deviceIdKey s₁ = (.ok (some id), s')
        ∧ output = "Stored device " ++ i.deviceId ++ " in keychain '" ++ K.name ++ "'\n" := by
  refine ⟨fun h => ?_, ?_⟩
  · unfold importSession at h
    split at h
    · cases h
    · rename_i c hc
      obtain ⟨i, hi, hv, rfl⟩ := Settings.ofInvitation_eq_ok_iff.1 hc
      split at h
      · cases h
      · rename_i havailable
        split at h
        · cases h
        · rename_i s₁ hsave
          split at h
          · cases h
          · cases h
          · rename_i id s₂ hload
            obtain ⟨houtput, rfl⟩ := Prod.mk.inj h
            exact ⟨by simpa using havailable, i, s₁, id, hi, hv, hsave, hload,
              (Except.ok.inj houtput).symm⟩
  · rintro ⟨havailable, i, s₁, id, hi, hv, hsave, hload, rfl⟩
    have hc := Settings.ofInvitation_eq_ok_iff.2 ⟨i, hi, hv, rfl⟩
    simp only [importSession, hc, havailable, hsave, hload]
    rfl

variable {name : String} {lost : String → Bool} {k : Keychain} {payload : String}

/-- After an import the keychain holds what it was to hold, except for the saves that were lost, but
at least a device's name. -/
theorem importSession_losing_eq_ok {output : String} {k' : Keychain}
    (h : importSession (losingService name lost k) payload k = (.ok output, k')) :
    ∃ i, Invitation.ofJson payload = .ok i ∧ i.settings.validate = .ok ()
      ∧ keys.map (text? name k') = leftBy lost (text? name k) i.settings
      ∧ (∃ id, text? name k' deviceIdKey = some id)
      ∧ Session.load (losingService name lost k).store k'
        = (Session.ofValues (leftBy lost (text? name k) i.settings), k') := by
  obtain ⟨-, i, k₁, id, hi, hv, hsave, hload, -⟩ := importSession_eq_ok_iff.1 h
  obtain ⟨hvalues, hlegible⟩ := Keychain.losing_save_session hsave
  have hid : (Keychain.store name).load deviceIdKey k₁ = (.ok (text? name k₁ deviceIdKey), k₁) :=
    hlegible deviceIdKey (by decide)
  have hload' : (Keychain.store name).load deviceIdKey k₁ = (.ok (some id), k') := hload
  obtain ⟨hid, rfl⟩ := Prod.mk.inj (hid.symm.trans hload')
  refine ⟨i, hi, hv, hvalues, ⟨id, Except.ok.inj hid⟩, ?_⟩
  rw [losingService, Session.load_losing, Session.load, Keychain.loadAll_of_legible hlegible,
    hvalues]

/-- In a keychain that works, what was lost is noticed if and only if there is no device's name
then. -/
theorem importSession_losing_succeeds_iff (hk : Works k)
    (hkeys : ∀ key ∈ keys, ¬ Unreadable name k key) {i : Invitation}
    (hi : Invitation.ofJson payload = .ok i) (hv : i.settings.validate = .ok ()) :
    (∃ output k', importSession (losingService name lost k) payload k = (.ok output, k')) ↔
      (lost deviceIdKey = true → ∃ id, text? name k deviceIdKey = some id) := by
  obtain ⟨k', hsave⟩ : ∃ k', Session.save ((Keychain.store name).losing lost) i.settings k
      = (.ok (), k') := hk.losing_save_session hv hkeys
  obtain ⟨hvalues, hlegible⟩ := Keychain.losing_save_session hsave
  have hid : text? name k' deviceIdKey
      = if lost deviceIdKey then text? name k deviceIdKey else some i.deviceId :=
    Session.deviceId_of_leftBy hvalues
  have hload : (losingService name lost k).store.load deviceIdKey k'
      = (.ok (text? name k' deviceIdKey), k') := hlegible deviceIdKey (by decide)
  have havailable : (losingService name lost k).available = true := by
    simp [losingService, Keychain.isAvailable, hk.present]
  refine ⟨?_, fun h => ?_⟩
  · rintro ⟨output, k'', himport⟩ hlost
    obtain ⟨i', hi', -, hvalues', ⟨id, hid'⟩, -⟩ := importSession_losing_eq_ok himport
    rw [Session.deviceId_of_leftBy hvalues', if_pos hlost] at hid'
    exact ⟨id, hid'⟩
  · have hname : ∃ id, text? name k' deviceIdKey = some id := by
      rw [hid]
      split_ifs with hlost
      · exact h hlost
      · exact ⟨_, rfl⟩
    obtain ⟨id, hname⟩ := hname
    rw [hname] at hload
    exact ⟨_, k', importSession_eq_ok_iff.2 ⟨havailable, i, k', id, hi, hv, hsave, hload, rfl⟩⟩

/-- An import into a keychain some of whose saves are lost, whatever the keychain held before. If
it succeeds, every key of the session holds what the invitation has for it or, if its save was lost,
what it held before. The session that is loaded then is the one of the invitation if and only if no
save that was lost would have changed anything; so it is if there was no device's name before and
either all saves were lost or none. The import of a valid invitation into a keychain that works, and
holds texts under the keys of a session, fails exactly if the save of the name was lost and there
was no name before. -/
theorem import_stores (name : String) (lost : String → Bool) (k : Keychain) (payload : String) :
    (∀ output k', importSession (losingService name lost k) payload k = (.ok output, k') →
        ∃ i, Invitation.ofJson payload = .ok i ∧ i.settings.validate = .ok ()
          ∧ keys.map (text? name k') = leftBy lost (text? name k) i.settings
          ∧ (Session.load (losingService name lost k).store k' = (.ok (some i.settings), k') ↔
            ∀ e ∈ entries i.settings, lost e.1 = true → text? name k e.1 = some e.2)
          ∧ ((∀ key ∈ keys, lost key = lost deviceIdKey) → text? name k deviceIdKey = none →
            Session.load (losingService name lost k).store k' = (.ok (some i.settings), k')))
      ∧ ∀ i, Invitation.ofJson payload = .ok i → i.settings.validate = .ok () → Works k →
        (∀ key ∈ keys, ¬ Unreadable name k key) →
        ((∃ output k', importSession (losingService name lost k) payload k = (.ok output, k')) ↔
          (lost deviceIdKey = true → ∃ id, text? name k deviceIdKey = some id)) := by
  refine ⟨fun output k' h => ?_, fun i hi hv hk hkeys =>
    importSession_losing_succeeds_iff hk hkeys hi hv⟩
  obtain ⟨i, hi, hv, hvalues, ⟨id, hid⟩, hload⟩ := importSession_losing_eq_ok h
  have hsame : Session.load (losingService name lost k).store k' = (.ok (some i.settings), k') ↔
      ∀ e ∈ entries i.settings, lost e.1 = true → text? name k e.1 = some e.2 := by
    rw [hload, Prod.mk.injEq, Session.ofValues_eq_some_iff hv, Session.leftBy_eq_values_iff,
      and_iff_left rfl]
  refine ⟨i, hi, hv, hvalues, hsame, fun hall hnone => hsame.2 fun e he hlost => ?_⟩
  have hkey : lost deviceIdKey = true := by
    rw [← hall e.1 (List.of_mem_zip he).1, hlost]
  rw [Session.deviceId_of_leftBy hvalues, if_pos hkey, hnone] at hid
  cases hid

/-- In a keychain without a session what was imported is loaded if nothing was lost, and the import
fails if everything was. -/
theorem import_stores_in_empty_keychain :
    let i : Invitation := ⟨"https://byte.example.com", "550e8400-e29b-41d4-a716-446655440000",
      "QkJCQkJCQkJCQkJCQkJCQkJCQkJCQkJCQkJCQkJCQkI="⟩
    let keeps : Service Keychain := losingService "com.byte.app" (fun _ => false) .empty
    let loses : Service Keychain := losingService "com.byte.app" (fun _ => true) .empty
    (∃ output k', importSession keeps i.toJson .empty = (.ok output, k')
        ∧ Session.load keeps.store k' = (.ok (some i.settings), k'))
      ∧ ¬ ∃ output k', importSession loses i.toJson .empty = (.ok output, k') := by
  intro i keeps loses
  have hi : Invitation.ofJson i.toJson = .ok i := Invitation.ofJson_toJson i
  have hv : i.settings.validate = .ok () := by decide +kernel
  have hk : Works .empty := ⟨rfl, rfl⟩
  have hkeys : ∀ key ∈ keys, ¬ Unreadable "com.byte.app" .empty key := by
    rintro key - ⟨bytes, hb, -⟩
    cases hb
  obtain ⟨hstored, hsucceeds⟩ := import_stores "com.byte.app" (fun _ => false) .empty i.toJson
  obtain ⟨-, hnoticed⟩ := import_stores "com.byte.app" (fun _ => true) .empty i.toJson
  obtain ⟨output, k', himport⟩ := (hsucceeds i hi hv hk hkeys).2 nofun
  obtain ⟨i', hi', -, -, -, hload⟩ := hstored output k' himport
  obtain rfl := Except.ok.inj (hi.symm.trans hi')
  refine ⟨⟨output, k', himport, hload (fun _ _ => rfl) rfl⟩, fun h => ?_⟩
  obtain ⟨id, hid⟩ := (hnoticed i hi hv hk hkeys).1 h rfl
  cases hid

/-- Over another session an import succeeds although its secret was lost: what is loaded then has
the name of the new device and the secret of the old one. -/
theorem import_mixes_sessions :
    let old : Settings := .ofTexts "https://byte.example.com"
      "550e8400-e29b-41d4-a716-446655440000" "QkJCQkJCQkJCQkJCQkJCQkJCQkJCQkJCQkJCQkJCQkI="
    let i : Invitation := ⟨"https://other.example.com", "6ba7b810-9dad-41d1-80b4-00c04fd430c8",
      "QUFBQUFBQUFBQUFBQUFBQUFBQUFBQUFBQUFBQUFBQUE="⟩
    let k : Keychain := ⟨(entries old).map fun e =>
      (("com.byte.app", e.1), .ofString e.2), [], false⟩
    let K : Service Keychain := losingService "com.byte.app" (· == "secret") k
    ∃ output k', importSession K i.toJson k = (.ok output, k')
      ∧ Session.load K.store k' = (.ok (some { i.settings with secret := old.secret }), k')
      ∧ old.secret ≠ i.settings.secret := by
  intro old i k K
  have hi : Invitation.ofJson i.toJson = .ok i := Invitation.ofJson_toJson i
  have hv : i.settings.validate = .ok () := by decide +kernel
  have hk : Works k := ⟨rfl, rfl⟩
  have htexts : ∀ key ∈ keys, text? "com.byte.app" k key ≠ none := by decide +kernel
  have hkeys : ∀ key ∈ keys, ¬ Unreadable "com.byte.app" k key := fun key hm hu =>
    htexts key hm hu.text?_eq_none
  obtain ⟨output, k', himport⟩ : ∃ output k', importSession K i.toJson k = (.ok output, k') :=
    (importSession_losing_succeeds_iff hk hkeys hi hv).2 fun h => absurd h (by decide)
  obtain ⟨i', hi', -, -, -, hload⟩ := importSession_losing_eq_ok himport
  obtain rfl := Except.ok.inj (hi.symm.trans hi')
  have hmixed : Session.ofValues (leftBy (· == "secret") (text? "com.byte.app" k) i.settings)
      = .ok (some { i.settings with secret := old.secret }) := by decide +kernel
  exact ⟨output, k', himport, by rw [hload, hmixed], by decide⟩

end Command

end DeviceAuth
