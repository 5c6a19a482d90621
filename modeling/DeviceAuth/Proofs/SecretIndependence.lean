import Mathlib.Data.List.Forall2
import Mathlib.Tactic.Common
import DeviceAuth.Proofs.Gate
import DeviceAuth.Proofs.SessionRuns

/-!
# Secrets influence nothing but themselves

Two runs of the same steps, saving settings that differ only in secrets which decode alike, cannot
be told apart but by the secrets (`no_influence`). The relation between the two stores is kept by
each call (`Store.Discreet`), so by each step (`Step.perform_alike`) and by each run (`run_alike`).
-/

namespace DeviceAuth

/-- What decoding a secret comes to: it is not base64, or it is so many bytes. -/
def secretLength? (secret : String) : Option Nat :=
  (Base64.standard.decode? secret.toList).map List.length

/-- Two settings that differ at most in the secret, and not in what decoding it comes to. -/
structure Settings.Alike (c c' : Settings) : Prop where
  serverUrl : c.serverUrl = c'.serverUrl
  deviceId : c.deviceId = c'.deviceId
  timeoutSeconds : c.timeoutSeconds = c'.timeoutSeconds
  secret : secretLength? c.secret = secretLength? c'.secret

/-! ## Checking settings and opening a channel -/

section Gate

variable {c c' : Settings}

theorem decodeRootKey_alike {secret secret' : String}
    (h : secretLength? secret = secretLength? secret') :
    Except.Rel (fun _ _ => True) (decodeRootKey secret) (decodeRootKey secret') := by
  unfold secretLength? at h
  unfold decodeRootKey
  generalize Base64.standard.decode? secret.toList = x at h ⊢
  generalize Base64.standard.decode? secret'.toList = y at h ⊢
  rcases x with _ | bytes <;> rcases y with _ | bytes'
  · exact .error _
  · cases h
  · cases h
  · have hlength : bytes.length = bytes'.length := Option.some.inj h
    simp only [Block.ofOctets?]
    by_cases h32 : bytes.length = 32
    · rw [dif_pos h32, dif_pos (hlength ▸ h32)]
      exact .ok trivial
    · rw [dif_neg h32, dif_neg (hlength ▸ h32), hlength]
      exact .error _

theorem Settings.Alike.rootKey (h : c.Alike c') :
    Except.Rel (fun _ _ => True) c.rootKey c'.rootKey :=
  decodeRootKey_alike h.secret

theorem Settings.Alike.validate (h : c.Alike c') : c.validate = c'.validate := by
  rw [validate_eq, validate_eq, h.deviceId, h.serverUrl]
  split_ifs
  · exact (h.rootKey.bind fun _ _ _ => .of_eq rfl).eq
  · rfl

theorem Credential.ofParts_alike (root root' : RootKey) (name : String) :
    Except.Rel (fun c c' : Credential => c.device = c'.device)
      (ofParts root.bytes.octets name) (ofParts root'.bytes.octets name) := by
  unfold ofParts RootKey.ofOctets
  rw [Block.ofOctets?_octets, Block.ofOctets?_octets]
  rcases DeviceId.parse? name with _ | id
  · exact .error _
  · exact .ok rfl

/-- Two channels to one address for one device. -/
structure Channel.Alike (ch ch' : Channel) : Prop where
  address : ch.address = ch'.address
  timeoutSeconds : ch.timeoutSeconds = ch'.timeoutSeconds
  device : ch.credential.device = ch'.credential.device

theorem Channel.connect_alike (h : c.Alike c') :
    Except.Rel Channel.Alike (connect c) (connect c') := by
  unfold connect
  rw [h.validate, h.serverUrl, h.deviceId, h.timeoutSeconds]
  refine Except.Rel.bind (.of_eq rfl) fun _ _ _ => ?_
  refine (h.rootKey.mapError _).bind fun root root' _ => ?_
  refine ((Credential.ofParts_alike root root' _).mapError _).bind fun c c' hdevice => ?_
  refine Except.Rel.bind (.of_eq rfl) fun address address' haddress => ?_
  exact .ok ⟨haddress, rfl, hdevice⟩

end Gate

/-! ## Stores -/

namespace Session

/-- Two values under a key: they may differ if they are secrets that decode alike. -/
structure Alike (key value value' : String) : Prop where
  same : key ≠ secretKey → value = value'
  outcome : secretLength? value = secretLength? value'

theorem Alike.refl (key value : String) : Alike key value value := ⟨fun _ => rfl, rfl⟩

end Session

open Session (Alike)

/-- What two calls or two steps came to: related values or the same error, and related states. -/
inductive Agree {ε α σ : Type} (R : α → α → Prop) (Rel : σ → σ → Prop) :
    Except ε α × σ → Except ε α × σ → Prop
  | ok {a b : α} {s t : σ} : R a b → Rel s t → Agree R Rel (.ok a, s) (.ok b, t)
  | error {s t : σ} (e : ε) : Rel s t → Agree R Rel (.error e, s) (.error e, t)

namespace Agree

variable {ε α σ : Type} {R : α → α → Prop} {Rel : σ → σ → Prop} {x y : Except ε α × σ}

theorem fst (h : Agree R Rel x y) : Except.Rel R x.1 y.1 := by
  cases h with
  | ok hv _ => exact .ok hv
  | error e _ => exact .error e

theorem snd (h : Agree R Rel x y) : Rel x.2 y.2 := by
  cases h with
  | ok _ hs => exact hs
  | error _ hs => exact hs

theorem of_rel {a b : Except ε α} {s t : σ} (hv : Except.Rel R a b) (hs : Rel s t) :
    Agree R Rel (a, s) (b, t) := by
  cases hv with
  | ok hv => exact .ok hv hs
  | error e => exact .error e hs

theorem cases (h : Agree R Rel x y) :
    (∃ a b s t, x = (.ok a, s) ∧ y = (.ok b, t) ∧ R a b ∧ Rel s t)
      ∨ ∃ e s t, x = (.error e, s) ∧ y = (.error e, t) ∧ Rel s t := by
  cases h with
  | ok hv hs => exact .inl ⟨_, _, _, _, rfl, rfl, hv, hs⟩
  | error e hs => exact .inr ⟨e, _, _, rfl, rfl, hs⟩

end Agree

/-- Each call of the store comes to the same from two related states, up to secrets, and leaves
related states. -/
structure Store.Discreet {σ : Type} (S : Store σ) (Rel : σ → σ → Prop) : Prop where
  save : ∀ {key value value' : String} {s t : σ}, Alike key value value' → Rel s t →
    Agree (· = ·) Rel (S.save key value s) (S.save key value' t)
  load : ∀ (key : String) {s t : σ}, Rel s t →
    Agree (Option.Rel (Alike key)) Rel (S.load key s) (S.load key t)
  delete : ∀ (key : String) {s t : σ}, Rel s t →
    Agree (· = ·) Rel (S.delete key s) (S.delete key t)

namespace Memory

/-- The same keys in the same order, with values that differ at most under the key of the secret. -/
def Alike (m m' : Memory) : Prop :=
  List.Forall₂ (fun e e' => e.1 = e'.1 ∧ Session.Alike e.1 e.2 e'.2) m m'

theorem Alike.refl (m : Memory) : m.Alike m :=
  List.forall₂_same.2 fun e _ => ⟨rfl, .refl e.1 e.2⟩

theorem Alike.set {m m' : Memory} (h : m.Alike m') {key value value' : String}
    (hv : Session.Alike key value value') : Alike (m.set key value) (m'.set key value') := by
  induction h with
  | nil => exact .cons ⟨rfl, hv⟩ .nil
  | @cons e e' m m' he h ih =>
    obtain ⟨k, v⟩ := e
    obtain ⟨k', v'⟩ := e'
    obtain ⟨rfl, hvv⟩ : k = k' ∧ Session.Alike k v v' := he
    by_cases hk : k = key
    · subst hk
      rw [Table.set, Table.set, if_pos rfl, if_pos rfl]
      exact .cons ⟨rfl, hv⟩ h
    · rw [Table.set, Table.set, if_neg hk, if_neg hk]
      exact .cons ⟨rfl, hvv⟩ ih

theorem Alike.remove {m m' : Memory} (h : m.Alike m') (key : String) :
    Alike (m.remove key) (m'.remove key) := by
  induction h with
  | nil => exact .nil
  | @cons e e' m m' he h ih =>
    unfold Table.remove at ih ⊢
    by_cases hk : e.1 = key
    · rwa [List.filter_cons_of_neg (by simp [hk]), List.filter_cons_of_neg (by simp [← he.1, hk])]
    · rw [List.filter_cons_of_pos (by simp [hk]), List.filter_cons_of_pos (by simp [← he.1, hk])]
      exact .cons he ih

theorem Alike.lookup {m m' : Memory} (h : m.Alike m') (key : String) :
    Option.Rel (Session.Alike key) (m.lookup key) (m'.lookup key) := by
  induction h with
  | nil => exact .none
  | @cons e e' m m' he h ih =>
    obtain ⟨k, v⟩ := e
    obtain ⟨k', v'⟩ := e'
    obtain ⟨rfl, hvv⟩ : k = k' ∧ Session.Alike k v v' := he
    by_cases hk : key = k
    · subst hk
      rw [List.lookup_cons_self, List.lookup_cons_self]
      exact .some hvv
    · have hb : (key == k) = false := beq_eq_false_iff_ne.2 hk
      simp only [List.lookup_cons, hb]
      exact ih

theorem discreet : store.Discreet Alike where
  save hv h := .ok rfl (h.set hv)
  load key _ _ h := .ok (h.lookup key) h
  delete key _ _ h := .ok rfl (h.remove key)

end Memory

namespace Watched

variable {σ : Type} {Rel : σ → σ → Prop}

/-- The same calls so far, and related states of the store that is watched. -/
structure Alike (Rel : σ → σ → Prop) (w w' : Watched σ) : Prop where
  inner : Rel w.inner w'.inner
  calls : w.calls = w'.calls

theorem Alike.call {α : Type} {R : α → α → Prop} {w w' : Watched σ} (h : Alike Rel w w')
    (faults : Faults) (c : StoreCall) {f g : σ → Except String α × σ}
    (hfg : ∀ {s t}, Rel s t → Agree R Rel (f s) (g t)) :
    Agree R (Alike Rel) (Watched.call faults c f w) (Watched.call faults c g w') := by
  have hcalls := h.calls
  rcases hf : faults w.calls c with _ | why
  · rw [call_of_passes hf, call_of_passes (hcalls ▸ hf), hcalls]
    rcases (hfg h.inner).cases with ⟨a, b, s, t, hs, ht, hv, h⟩ | ⟨e, s, t, hs, ht, h⟩
    · rw [hs, ht]
      exact .ok hv ⟨h, rfl⟩
    · rw [hs, ht]
      exact .error e ⟨h, rfl⟩
  · rw [call_of_fails hf, call_of_fails (hcalls ▸ hf), hcalls]
    exact .error why ⟨h.inner, rfl⟩

/-- Which calls fail depends on the calls before and not on what they save. -/
theorem discreet {S : Store σ} (hS : S.Discreet Rel) (faults : Faults) :
    (store S faults).Discreet (Alike Rel) where
  save hv h := h.call faults _ fun hs => hS.save hv hs
  load key _ _ h := h.call faults _ fun hs => hS.load key hs
  delete key _ _ h := h.call faults _ fun hs => hS.delete key hs

end Watched

namespace Session

/-! ## What is done with a session -/

/-- Values under some keys, one for each. -/
inductive AlikeAll {α : Type} (R : String → α → α → Prop) :
    List String → List α → List α → Prop
  | nil : AlikeAll R [] [] []
  | cons {key : String} {keys : List String} {a b : α} {as bs : List α} :
    R key a b → AlikeAll R keys as bs → AlikeAll R (key :: keys) (a :: as) (b :: bs)

theorem AlikeAll.zip {α β : Type} {R : String → α → α → Prop} {Q : String → β → β → Prop}
    {keys : List String} {as bs : List α} (h : AlikeAll R keys as bs) {us vs : List β}
    (h' : AlikeAll Q keys us vs) :
    List.Forall₂ (fun e e' => e.1 = e'.1 ∧ R e.1 e.2.1 e'.2.1 ∧ Q e.1 e.2.2 e'.2.2)
      (keys.zip (as.zip us)) (keys.zip (bs.zip vs)) := by
  induction h generalizing us vs with
  | nil => exact .nil
  | cons hr _ ih =>
    cases h' with
    | cons hq h' => exact .cons ⟨rfl, hr, hq⟩ (ih h')

theorem values_alike {c c' : Settings} (h : c.Alike c') :
    AlikeAll Alike keys (values c) (values c') := by
  have hne : serverUrlKey ≠ secretKey ∧ deviceIdKey ≠ secretKey := by decide
  refine .cons ?_ (.cons ?_ (.cons ?_ .nil))
  · rw [h.serverUrl]
    exact .refl _ _
  · rw [h.deviceId]
    exact .refl _ _
  · exact ⟨fun hk => absurd rfl hk, h.secret⟩

/-- A session is there as a whole in both or in neither, and is then refused in both or in
neither. -/
theorem ofValues_alike {vs vs' : List (Option String)}
    (h : AlikeAll (fun key => Option.Rel (Alike key)) keys vs vs') :
    Except.Rel (Option.Rel Settings.Alike) (ofValues vs) (ofValues vs') := by
  obtain _ | ⟨hurl, h⟩ := h
  obtain _ | ⟨hid, h⟩ := h
  obtain _ | ⟨hsecret, h⟩ := h
  obtain _ | _ := h
  cases hurl with
  | none => exact .ok .none
  | @some url _ hurl =>
  cases hid with
  | none => exact .ok .none
  | @some id _ hid =>
  cases hsecret with
  | none => exact .ok .none
  | @some secret secret' hsecret =>
  obtain rfl := hurl.same (by decide)
  obtain rfl := hid.same (by decide)
  have hlike : (Settings.ofTexts url id secret).Alike (.ofTexts url id secret') :=
    ⟨rfl, rfl, rfl, hsecret.outcome⟩
  simp only [ofValues, hlike.validate]
  rcases (Settings.ofTexts url id secret').validate with e | u
  · exact .error _
  · exact .ok (.some hlike)

section Discreet

variable {σ : Type} {S : Store σ} {Rel : σ → σ → Prop} (hS : S.Discreet Rel) {s t : σ}
include hS

theorem loadAll_alike (h : Rel s t) : ∀ keys : List String,
    Agree (AlikeAll (fun key => Option.Rel (Alike key)) keys) Rel (loadAll S keys s)
      (loadAll S keys t) := by
  intro keys
  induction keys generalizing s t with
  | nil => exact .ok .nil h
  | cons key keys ih =>
    unfold loadAll
    rcases (hS.load key h).cases with ⟨v, v', _, _, hs, ht, hv, h⟩ | ⟨why, _, _, hs, ht, h⟩
    · rw [hs, ht]
      dsimp only
      rcases (ih h).cases with ⟨vs, vs', _, _, hs, ht, hvs, h⟩ | ⟨e, _, _, hs, ht, h⟩
      · rw [hs, ht]
        exact .ok (.cons hv hvs) h
      · rw [hs, ht]
        exact .error e h
    · rw [hs, ht]
      exact .error _ h

theorem putBack_alike (h : Rel s t) {e e' : String × Option String} (hkey : e.1 = e'.1)
    (hold : Option.Rel (Alike e.1) e.2 e'.2) : Rel (putBack S s e) (putBack S t e') := by
  obtain ⟨key, old⟩ := e
  obtain ⟨key', old'⟩ := e'
  obtain rfl : key = key' := hkey
  cases hold with
  | none => exact (hS.delete key h).snd
  | some hv => exact (hS.save hv h).snd

theorem foldl_putBack_alike {written written' : List (String × Option String)}
    (hw : List.Forall₂ (fun e e' => e.1 = e'.1 ∧ Option.Rel (Alike e.1) e.2 e'.2) written written')
    (h : Rel s t) : Rel (written.foldl (putBack S) s) (written'.foldl (putBack S) t) := by
  induction hw generalizing s t with
  | nil => exact h
  | cons he _ ih => exact ih (putBack_alike hS h he.1 he.2)

/-- A call that fails does so in both runs, and the same keys are put back. -/
theorem saveAll_alike {entries entries' : List (String × Option String × String)}
    (he : List.Forall₂ (fun e e' => e.1 = e'.1 ∧ Option.Rel (Alike e.1) e.2.1 e'.2.1
      ∧ Alike e.1 e.2.2 e'.2.2) entries entries')
    {written written' : List (String × Option String)}
    (hw : List.Forall₂ (fun e e' => e.1 = e'.1 ∧ Option.Rel (Alike e.1) e.2 e'.2) written written')
    (h : Rel s t) :
    Agree (· = ·) Rel (saveAll S written entries s) (saveAll S written' entries' t) := by
  induction he generalizing written written' s t with
  | nil => exact .ok rfl h
  | @cons e e' _ _ he _ ih =>
    obtain ⟨key, old, value⟩ := e
    obtain ⟨key', old', value'⟩ := e'
    obtain ⟨rfl, hold, hv⟩ : key = key' ∧ Option.Rel (Alike key) old old'
      ∧ Alike key value value' := he
    unfold saveAll
    rcases (hS.save hv h).cases with ⟨_, _, _, _, hs, ht, -, h⟩ | ⟨why, _, _, hs, ht, h⟩
    · rw [hs, ht]
      exact ih (List.rel_append hw (.cons ⟨rfl, hold⟩ .nil)) h
    · rw [hs, ht]
      exact .error _ (foldl_putBack_alike hS hw h)

theorem save_alike {c c' : Settings} (hc : c.Alike c') (h : Rel s t) :
    Agree (· = ·) Rel (save S c s) (save S c' t) := by
  unfold save
  rw [hc.validate]
  rcases c'.validate with e | u
  · exact .error _ h
  · rcases (loadAll_alike hS h keys).cases with
      ⟨vs, vs', _, _, hs, ht, hvs, h⟩ | ⟨e, _, _, hs, ht, h⟩
    · rw [hs, ht]
      exact saveAll_alike hS (hvs.zip (values_alike hc)) .nil h
    · rw [hs, ht]
      exact .error _ h

theorem load_alike (h : Rel s t) :
    Agree (Option.Rel Settings.Alike) Rel (load S s) (load S t) := by
  unfold load
  rcases (loadAll_alike hS h keys).cases with
    ⟨vs, vs', _, _, hs, ht, hvs, h⟩ | ⟨e, _, _, hs, ht, h⟩
  · rw [hs, ht]
    exact .of_rel (ofValues_alike hvs) h
  · rw [hs, ht]
    exact .error _ h

theorem deleteAll_alike (h : Rel s t) : ∀ keys : List String,
    Agree (· = ·) Rel (deleteAll S keys s) (deleteAll S keys t) := by
  intro keys
  induction keys generalizing s t with
  | nil => exact .ok rfl h
  | cons key keys ih =>
    unfold deleteAll
    rcases (hS.delete key h).cases with ⟨_, _, _, _, hs, ht, -, h⟩ | ⟨why, _, _, hs, ht, h⟩
    · rw [hs, ht]
      exact ih h
    · rw [hs, ht]
      exact .error _ h

end Discreet

/-! ## Two runs -/

/-- The same is done with a session, up to the secret that is saved. -/
inductive Step.Alike : Step → Step → Prop
  | save {c c' : Settings} : c.Alike c' → Alike (.save c) (.save c')
  | load : Alike .load .load
  | clear : Alike .clear .clear

/-- The same was done and the same came of it, up to the secret that was saved or loaded. -/
inductive Event.Alike : Event → Event → Prop
  | saved {c c' : Settings} (result : Except Error Unit) :
    c.Alike c' → Alike (.saved c result) (.saved c' result)
  | loaded {result result' : Except Error (Option Settings)} :
    Except.Rel (Option.Rel Settings.Alike) result result' → Alike (.loaded result) (.loaded result')
  | cleared (result : Except Error Unit) : Alike (.cleared result) (.cleared result)

section Runs

variable {σ : Type} {S : Store σ} {Rel : σ → σ → Prop} (hS : S.Discreet Rel) {s t : σ}
include hS

theorem Step.perform_alike {step step' : Step} (hstep : step.Alike step') (h : Rel s t) :
    Event.Alike (step.perform S s).1 (step'.perform S t).1
      ∧ Rel (step.perform S s).2 (step'.perform S t).2 := by
  cases hstep with
  | @save c c' hc =>
    have hsave := save_alike hS hc h
    refine ⟨?_, hsave.snd⟩
    change Event.Alike (.saved c (Session.save S c s).1) (.saved c' (Session.save S c' t).1)
    rw [hsave.fst.eq]
    exact .saved _ hc
  | load => exact ⟨.loaded (load_alike hS h).fst, (load_alike hS h).snd⟩
  | clear =>
    have hclear := deleteAll_alike hS h keys
    refine ⟨?_, hclear.snd⟩
    change Event.Alike (.cleared (deleteAll S keys s).1) (.cleared (deleteAll S keys t).1)
    rw [hclear.fst.eq]
    exact .cleared _

theorem run_alike {steps steps' : List Step} (hsteps : List.Forall₂ Step.Alike steps steps')
    (h : Rel s t) :
    List.Forall₂ Event.Alike (run S steps s).1 (run S steps' t).1
      ∧ Rel (run S steps s).2 (run S steps' t).2 := by
  induction hsteps generalizing s t with
  | nil => exact ⟨.nil, h⟩
  | cons hstep _ ih =>
    obtain ⟨hevent, h⟩ := Step.perform_alike hS hstep h
    obtain ⟨hevents, h⟩ := ih h
    exact ⟨.cons hevent hevents, h⟩

end Runs

open Watched (memory)

/-- Steps are run twice from one store in memory with the same faults, and the settings that they
save differ only in secrets, of which the two at one step are either both no base64 or both so many
bytes. Then the same calls are made, each step comes to the same or fails with the same error,
sessions that are loaded differ only in such secrets, and so do the stores in the end. With two such
settings a channel is opened to the same address for the same device, or fails to be opened with the
same error. -/
theorem no_influence (faults : Faults) (w : Watched Memory) {steps steps' : List Step}
    (hsteps : List.Forall₂ Step.Alike steps steps') :
    let out := run (memory faults) steps w
    let out' := run (memory faults) steps' w
    out.2.calls = out'.2.calls
      ∧ List.Forall₂ Event.Alike out.1 out'.1
      ∧ out.2.inner.Alike out'.2.inner
      ∧ ∀ c c' : Settings, c.Alike c' →
        Except.Rel Channel.Alike (Channel.connect c) (Channel.connect c') := by
  have hS := Watched.discreet Memory.discreet faults
  obtain ⟨hevents, h⟩ := run_alike hS hsteps (⟨.refl w.inner, rfl⟩ : Watched.Alike _ w w)
  exact ⟨h.calls, hevents, h.inner, fun c c' hc => Channel.connect_alike hc⟩

/-- The second of two sessions fails to be saved at its secret, and the first is put back. -/
theorem no_influence_on_putBack :
    let c : Settings := .ofTexts "https://byte.example.com" "550e8400-e29b-41d4-a716-446655440000"
      "QkJCQkJCQkJCQkJCQkJCQkJCQkJCQkJCQkJCQkJCQkI="
    let c' : Settings := .ofTexts "https://byte.example.com" "550e8400-e29b-41d4-a716-446655440000"
      "QUFBQUFBQUFBQUFBQUFBQUFBQUFBQUFBQUFBQUFBQUE="
    let faults : Faults := .ofList [⟨⟨.save, "secret"⟩, "full", some 2⟩]
    let w : Watched Memory := ⟨[("secret", "left over")], []⟩
    let out := run (memory faults) [.save c, .save c', .load] w
    let out' := run (memory faults) [.save c', .save c, .load] w
    List.Forall₂ Step.Alike [.save c, .save c', .load] [.save c', .save c, .load]
      ∧ out.1 = [.saved c (.ok ()), .saved c' (.error (.saving "secret" "full")),
        .loaded (.ok (some c))]
      ∧ out.2.calls = out'.2.calls ∧ out.2.inner.Alike out'.2.inner := by
  intro c c' faults w out out'
  have hc : c.Alike c' := ⟨rfl, rfl, rfl, by decide +kernel⟩
  have hc' : c'.Alike c := ⟨rfl, rfl, rfl, by decide +kernel⟩
  have hsteps : List.Forall₂ Step.Alike [.save c, .save c', .load] [.save c', .save c, .load] :=
    .cons (.save hc) (.cons (.save hc') (.cons .load .nil))
  obtain ⟨hcalls, -, hinner, -⟩ := no_influence faults w hsteps
  exact ⟨hsteps, by decide +kernel, hcalls, hinner⟩

end Session

end DeviceAuth
