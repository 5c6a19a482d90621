import Mathlib.Data.List.Forall2
import Mathlib.Tactic.Common
import DeviceAuth.Proofs.SessionRuns
import DeviceAuth.Proofs.StoreLaws

/-!
# A keychain in place of memory

Two faithful stores whose keys have the same texts cannot be told apart, whatever is done with them
(`Session.trace_abreast`). So a service's store in a keychain does what a table in memory does, as
long as what the service holds are texts, and other services never notice
(`Keychain.refines_memory`). An entry that is no text stops a session from being saved or loaded,
before anything is changed, but not from being removed.
-/

namespace DeviceAuth

namespace Session

/-! ## What is done with a store -/

/-- One entry is saved, loaded or deleted, or a session is. -/
inductive Action
  | save (key value : String)
  | load (key : String)
  | delete (key : String)
  | session (step : Step)
deriving DecidableEq

inductive Outcome
  | saved (result : Except String Unit)
  | loaded (result : Except String (Option String))
  | deleted (result : Except String Unit)
  | session (event : Event)
deriving DecidableEq

section Trace

variable {σ : Type} (S : Store σ)

def Action.perform : Action → σ → Outcome × σ
  | save key value, s => (.saved (S.save key value s).1, (S.save key value s).2)
  | load key, s => (.loaded (S.load key s).1, (S.load key s).2)
  | delete key, s => (.deleted (S.delete key s).1, (S.delete key s).2)
  | session step, s => (.session (step.perform S s).1, (step.perform S s).2)

/-- What each action comes to, with the state after it. -/
def trace : List Action → σ → List (Outcome × σ)
  | [], _ => []
  | action :: actions, s => action.perform S s :: trace actions (action.perform S s).2

end Trace

/-! ## Two faithful stores -/

theorem deleteAll_faithful {σ : Type} {S : Store σ} {ok : σ → Prop}
    {read : σ → String → Option String} (hS : S.Faithful ok read) :
    ∀ (keys : List String) {s : σ}, ok s → ∃ s', deleteAll S keys s = (.ok (), s') ∧ ok s'
      ∧ read s' = keys.foldl (fun f key => Function.update f key none) (read s)
  | [], s, h => ⟨s, rfl, h, rfl⟩
  | key :: keys, s, h => by
    obtain ⟨s₁, hdelete, h₁, hread₁⟩ := hS.delete s h key
    obtain ⟨s₂, hall, h₂, hread₂⟩ := deleteAll_faithful hS keys h₁
    refine ⟨s₂, ?_, h₂, ?_⟩
    · simp only [deleteAll, hdelete, hall]
    · rw [hread₂, hread₁, List.foldl_cons]

/-- The keys of two stores have the same texts. -/
structure Abreast {σ τ : Type} (ok : σ → Prop) (read : σ → String → Option String)
    (ok' : τ → Prop) (read' : τ → String → Option String) (s : σ) (t : τ) : Prop where
  left : ok s
  right : ok' t
  same : read s = read' t

section Abreast

variable {σ τ : Type} {S : Store σ} {T : Store τ} {ok : σ → Prop} {ok' : τ → Prop}
  {read : σ → String → Option String} {read' : τ → String → Option String}
  (hS : S.Faithful ok read) (hT : T.Faithful ok' read') {s : σ} {t : τ}
include hS hT

theorem save_abreast (c : Settings) (h : Abreast ok read ok' read' s t) :
    (save S c s).1 = (save T c t).1 ∧ Abreast ok read ok' read' (save S c s).2 (save T c t).2 := by
  rcases hv : c.validate with e | u
  · simp only [save, hv]
    exact ⟨trivial, h⟩
  · obtain ⟨s₁, hload, h₁, hread₁⟩ := loadAll_faithful hS keys h.left
    obtain ⟨t₁, hload', h₁', hread₁'⟩ := loadAll_faithful hT keys h.right
    obtain ⟨s₂, hsave, h₂, hread₂⟩ :=
      saveAll_faithful hS (keys.zip ((keys.map (read s)).zip (values c))) [] h₁
    obtain ⟨t₂, hsave', h₂', hread₂'⟩ :=
      saveAll_faithful hT (keys.zip ((keys.map (read' t)).zip (values c))) [] h₁'
    simp only [save, hv, hload, hload', hsave, hsave']
    exact ⟨trivial, h₂, h₂', by rw [hread₂, hread₂', hread₁, hread₁', h.same]⟩

theorem load_abreast (h : Abreast ok read ok' read' s t) :
    (load S s).1 = (load T t).1 ∧ Abreast ok read ok' read' (load S s).2 (load T t).2 := by
  obtain ⟨s₁, hload, h₁, hread₁⟩ := loadAll_faithful hS keys h.left
  obtain ⟨t₁, hload', h₁', hread₁'⟩ := loadAll_faithful hT keys h.right
  simp only [load, hload, hload']
  exact ⟨by rw [h.same], h₁, h₁', by rw [hread₁, hread₁', h.same]⟩

theorem clear_abreast (h : Abreast ok read ok' read' s t) :
    (clear S s).1 = (clear T t).1 ∧ Abreast ok read ok' read' (clear S s).2 (clear T t).2 := by
  obtain ⟨s₁, hclear, h₁, hread₁⟩ := deleteAll_faithful hS keys h.left
  obtain ⟨t₁, hclear', h₁', hread₁'⟩ := deleteAll_faithful hT keys h.right
  simp only [clear, hclear, hclear']
  exact ⟨trivial, h₁, h₁', by rw [hread₁, hread₁', h.same]⟩

theorem Step.perform_abreast (step : Step) (h : Abreast ok read ok' read' s t) :
    (step.perform S s).1 = (step.perform T t).1
      ∧ Abreast ok read ok' read' (step.perform S s).2 (step.perform T t).2 := by
  cases step with
  | save c =>
    obtain ⟨hresult, h⟩ := save_abreast hS hT c h
    exact ⟨congrArg (Event.saved c) hresult, h⟩
  | load =>
    obtain ⟨hresult, h⟩ := load_abreast hS hT h
    exact ⟨congrArg Event.loaded hresult, h⟩
  | clear =>
    obtain ⟨hresult, h⟩ := clear_abreast hS hT h
    exact ⟨congrArg Event.cleared hresult, h⟩

theorem Action.perform_abreast (action : Action) (h : Abreast ok read ok' read' s t) :
    (action.perform S s).1 = (action.perform T t).1
      ∧ Abreast ok read ok' read' (action.perform S s).2 (action.perform T t).2 := by
  cases action with
  | save key value =>
    obtain ⟨s₁, hs, h₁, hread₁⟩ := hS.save s h.left key value
    obtain ⟨t₁, ht, h₁', hread₁'⟩ := hT.save t h.right key value
    simp only [perform, hs, ht]
    exact ⟨trivial, h₁, h₁', by rw [hread₁, hread₁', h.same]⟩
  | load key =>
    obtain ⟨s₁, hs, h₁, hread₁⟩ := hS.load s h.left key
    obtain ⟨t₁, ht, h₁', hread₁'⟩ := hT.load t h.right key
    simp only [perform, hs, ht]
    exact ⟨by rw [h.same], h₁, h₁', by rw [hread₁, hread₁', h.same]⟩
  | delete key =>
    obtain ⟨s₁, hs, h₁, hread₁⟩ := hS.delete s h.left key
    obtain ⟨t₁, ht, h₁', hread₁'⟩ := hT.delete t h.right key
    simp only [perform, hs, ht]
    exact ⟨trivial, h₁, h₁', by rw [hread₁, hread₁', h.same]⟩
  | session step =>
    obtain ⟨hevent, h⟩ := step.perform_abreast hS hT h
    exact ⟨congrArg Outcome.session hevent, h⟩

theorem trace_abreast : ∀ (actions : List Action) {s : σ} {t : τ},
    Abreast ok read ok' read' s t →
      List.Forall₂ (fun x y => x.1 = y.1 ∧ Abreast ok read ok' read' x.2 y.2)
        (trace S actions s) (trace T actions t)
  | [], _, _, _ => .nil
  | action :: actions, _, _, h => by
    have hstep := action.perform_abreast hS hT h
    exact .cons hstep (trace_abreast actions hstep.2)

end Abreast

end Session

namespace Keychain

open Session (keys trace Action loadAll)

variable {service : String} {k : Keychain}

/-! ## A service's entries and those of others -/

/-- The keychain is there and refuses nothing. -/
structure Works (k : Keychain) : Prop where
  present : k.missing = false
  unlocked : k.locked = []

/-- What the service holds under the key is no text. -/
def Unreadable (service : String) (k : Keychain) (key : String) : Prop :=
  ∃ bytes, k.entries.lookup (service, key) = some bytes ∧ Octets.text? bytes = none

/-- The service holds exactly the entries of the table, in UTF-8. -/
def Mirrors (service : String) (k : Keychain) (m : Memory) : Prop :=
  ∀ key, k.entries.lookup (service, key) = (m.lookup key).map Octets.ofString

/-- Two keychains hold the same under all other services. -/
def SameBeside (service : String) (k k' : Keychain) : Prop :=
  ∀ other key, other ≠ service → k.entries.lookup (other, key) = k'.entries.lookup (other, key)

theorem sameBeside_save (service key value : String) (k : Keychain) :
    SameBeside service ((store service).save key value k).2 k := by
  intro other key' hne
  simp only [store]
  split
  · rfl
  · rw [Table.lookup_set, if_neg fun h => hne (Prod.mk.inj h).1]

theorem sameBeside_delete (service key : String) (k : Keychain) :
    SameBeside service ((store service).delete key k).2 k := by
  intro other key' hne
  simp only [store]
  split
  · rfl
  · rw [Table.lookup_remove, if_neg fun h => hne (Prod.mk.inj h).1]

theorem SameBeside.trans {k₁ k₂ k₃ : Keychain} (h : SameBeside service k₁ k₂)
    (h' : SameBeside service k₂ k₃) : SameBeside service k₁ k₃ :=
  fun other key hne => (h other key hne).trans (h' other key hne)

/-- A service's store stays faithful without touching what `k₀` holds under other services. -/
theorem faithful_beside (service : String) (k₀ : Keychain) :
    (store service).Faithful (fun k => InOrder service k ∧ SameBeside service k k₀)
      (text? service) where
  load k h key := ⟨k, h.1.load key, h, rfl⟩
  save k h key value := by
    obtain ⟨k', hsave, hk', hread⟩ := h.1.save key value
    have hbeside := sameBeside_save service key value k
    rw [hsave] at hbeside
    exact ⟨k', hsave, ⟨hk', hbeside.trans h.2⟩, hread⟩
  delete k h key := by
    obtain ⟨k', hdelete, hk', hread⟩ := h.1.delete key
    have hbeside := sameBeside_delete service key k
    rw [hdelete] at hbeside
    exact ⟨k', hdelete, ⟨hk', hbeside.trans h.2⟩, hread⟩

theorem Works.inOrder (hk : Works k) (h : ∀ key, ¬ Unreadable service k key) :
    InOrder service k := by
  refine ⟨hk.present, hk.unlocked, fun key bytes hb => ?_⟩
  rcases ht : Octets.text? bytes with _ | value
  · exact absurd ⟨bytes, hb, ht⟩ (h key)
  · exact ⟨value, Octets.text?_eq_some_iff.1 ht⟩

theorem InOrder.mirrors_iff (h : InOrder service k) {m : Memory} :
    Mirrors service k m ↔ text? service k = fun key => m.lookup key := by
  refine ⟨fun hm => funext fun key => ?_, fun hm key => ?_⟩
  · rw [text?, hm key]
    rcases m.lookup key with _ | value
    · rfl
    · exact Octets.text?_ofString value
  · rw [← congrFun hm key, text?]
    rcases hb : k.entries.lookup (service, key) with _ | bytes
    · rfl
    · obtain ⟨value, rfl⟩ := h.texts key bytes hb
      simp [Octets.text?_ofString]

/-- The texts that a service holds, as a table. -/
def texts (service : String) : Table (String × String) Octets → Memory
  | [] => []
  | ((other, key), bytes) :: entries =>
    if other = service then
      ((Octets.text? bytes).map fun value => (key, value)).toList ++ texts service entries
    else texts service entries

theorem lookup_texts {key : String} : ∀ {entries : Table (String × String) Octets},
    (∀ bytes, entries.lookup (service, key) = some bytes →
      ∃ value, bytes = Octets.ofString value) →
    (texts service entries).lookup key = entries.lookup (service, key) >>= Octets.text?
  | [], _ => rfl
  | ((other, key'), bytes) :: entries, h => by
    by_cases he : (service, key) = (other, key')
    · obtain ⟨rfl, rfl⟩ := Prod.mk.inj he
      obtain ⟨value, rfl⟩ := h bytes List.lookup_cons_self
      rw [texts, if_pos rfl, List.lookup_cons_self, Octets.text?_ofString]
      simp [Octets.text?_ofString]
    · have hne : ((service, key) == (other, key')) = false := beq_eq_false_iff_ne.2 he
      simp only [List.lookup_cons, hne] at h ⊢
      rw [texts, ← lookup_texts h]
      split_ifs with hother
      · have hkey : (key == key') = false :=
          beq_eq_false_iff_ne.2 fun hkey => he (by rw [hother, hkey])
        rcases Octets.text? bytes with _ | value <;> simp [List.lookup_cons, hkey]
      · rfl

theorem InOrder.mirrors_texts (h : InOrder service k) :
    Mirrors service k (Keychain.texts service k.entries) :=
  h.mirrors_iff.2 (funext fun key => (lookup_texts (h.texts key)).symm)

/-! ## Entries that are no texts -/

theorem Works.refusal?_eq_none (hk : Works k) (call : StoreCall) : k.refusal? call = none := by
  simp [refusal?, hk.present, hk.unlocked]

/-- What is said of an entry that is no text. -/
def notText (key : String) : String := "keychain get for '" ++ key ++ "': Data is not UTF-8 encoded"

/-- Reading an entry fails if and only if it is no text. -/
theorem Works.load_cases (hk : Works k) (service key : String) :
    (Unreadable service k key ∧ (store service).load key k = (.error (notText key), k))
      ∨ (¬ Unreadable service k key ∧ ∃ value, (store service).load key k = (.ok value, k)) := by
  simp only [store, hk.refusal?_eq_none, Unreadable]
  rcases k.entries.lookup (service, key) with _ | bytes
  · exact .inr ⟨by simp, none, rfl⟩
  · rcases ht : Octets.text? bytes with _ | value
    · exact .inl ⟨⟨bytes, rfl, ht⟩, by simp only [ht]; rfl⟩
    · exact .inr ⟨by simp [ht], some value, by simp only [ht]⟩

theorem Works.loadAll_of_unreadable (hk : Works k) : ∀ {keys : List String},
    (∃ key ∈ keys, Unreadable service k key) → ∃ key ∈ keys, Unreadable service k key
      ∧ loadAll (store service) keys k = (.error (key, notText key), k)
  | [], h => by simp at h
  | key :: keys, h => by
    rcases hk.load_cases service key with ⟨hu, hl⟩ | ⟨hr, value, hl⟩
    · exact ⟨key, List.mem_cons_self, hu, by simp only [loadAll, hl]⟩
    · obtain ⟨key', hmem, hu⟩ := h
      have hmem' : key' ∈ keys := (List.mem_cons.1 hmem).resolve_left fun he => hr (he ▸ hu)
      obtain ⟨bad, hbad, hub, hall⟩ := hk.loadAll_of_unreadable ⟨key', hmem', hu⟩
      exact ⟨bad, List.mem_cons_of_mem _ hbad, hub, by simp only [loadAll, hl, hall]⟩

/-- Deleting needs no text to be read. -/
theorem Works.deleteAll : ∀ (keys : List String) {k : Keychain}, Works k →
    ∃ k', Session.deleteAll (store service) keys k = (.ok (), k')
      ∧ ∀ other key, k'.entries.lookup (other, key)
        = if other = service ∧ key ∈ keys then none else k.entries.lookup (other, key)
  | [], k, _ => ⟨k, rfl, by simp⟩
  | key :: keys, k, hk => by
    obtain ⟨k', hall, hlookup⟩ := Works.deleteAll keys
      (⟨hk.present, hk.unlocked⟩ : Works { k with entries := k.entries.remove (service, key) })
    refine ⟨k', ?_, fun other key' => ?_⟩
    · simp only [Session.deleteAll, store, hk.refusal?_eq_none] at hall ⊢
      exact hall
    · rw [hlookup, Table.lookup_remove]
      by_cases hs : other = service <;> by_cases he : key' = key <;> simp [hs, he]

/-! ## The keychain beside memory -/

/-- In a keychain that works, a service that holds only texts does what a table with the same texts
does, whatever is done: each action comes to the same, after each the service holds exactly the
entries of the table, and other services hold what they held at first. If what it holds under a key
of a session is no text, no session is saved or loaded and nothing is changed by trying; removing
the session succeeds and removes its entries, and no others. -/
theorem refines_memory (service : String) {k : Keychain} (hk : Works k) :
    ((∀ key, ¬ Unreadable service k key) →
      (∃ m, Mirrors service k m) ∧ ∀ m, Mirrors service k m → ∀ actions : List Action,
        List.Forall₂ (fun x y => x.1 = y.1 ∧ Mirrors service x.2 y.2 ∧ SameBeside service x.2 k)
          (trace (store service) actions k) (trace Memory.store actions m))
      ∧ ((∃ key ∈ keys, Unreadable service k key) →
        (∀ c, ∃ e, Session.save (store service) c k = (.error e, k))
        ∧ (∃ key ∈ keys, Unreadable service k key
          ∧ Session.load (store service) k = (.error (.store (notText key)), k))
        ∧ ∃ k', Session.clear (store service) k = (.ok (), k')
          ∧ ∀ other key, k'.entries.lookup (other, key)
            = if other = service ∧ key ∈ keys then none else k.entries.lookup (other, key)) := by
  refine ⟨fun hreadable => ?_, fun hbad => ?_⟩
  · have hin := hk.inOrder hreadable
    refine ⟨⟨_, hin.mirrors_texts⟩, fun m hm actions => ?_⟩
    have htrace := Session.trace_abreast (faithful_beside service k) Memory.faithful actions
      ⟨⟨hin, fun _ _ _ => rfl⟩, trivial, hin.mirrors_iff.1 hm⟩
    exact htrace.imp fun x y ⟨hresult, h⟩ =>
      ⟨hresult, h.left.1.mirrors_iff.2 h.same, h.left.2⟩
  · obtain ⟨key, hmem, hu, hload⟩ := hk.loadAll_of_unreadable hbad
    refine ⟨fun c => ?_, ⟨key, hmem, hu, ?_⟩, hk.deleteAll keys⟩
    · rcases hv : c.validate with e | u
      · exact ⟨.refused e, by simp only [Session.save, hv]⟩
      · exact ⟨.reading key (notText key), by simp only [Session.save, hv, hload]⟩
    · simp only [Session.load, hload]

/-- Over an entry that was left over, a session is saved, loaded and removed, while another service
holds bytes that are no text. In the way of a session such bytes are removed with it. -/
theorem refines_memory_beside_bytes :
    let c : Settings := .ofTexts "https://byte.example.com" "550e8400-e29b-41d4-a716-446655440000"
      "QkJCQkJCQkJCQkJCQkJCQkJCQkJCQkJCQkJCQkJCQkI="
    let k : Keychain :=
      ⟨[(("com.byte.app", "serverURL"), [0x68]), (("other", "secret"), [0xff])], [], false⟩
    let actions : List Action := [.load "serverURL", .session (.save c), .load "deviceID",
      .session .load, .session .clear, .load "secret"]
    Works k
      ∧ (∃ m, Mirrors "com.byte.app" k m ∧ (trace Memory.store actions m).map (·.1)
        = [.loaded (.ok (some "h")), .session (.saved c (.ok ())),
          .loaded (.ok (some c.deviceId)), .session (.loaded (.ok (some c))),
          .session (.cleared (.ok ())), .loaded (.ok none)])
      ∧ (∃ e, (Session.load (store "other") k).1 = .error e)
      ∧ ∃ k', Session.clear (store "other") k = (.ok (), k')
        ∧ k'.entries.lookup ("other", "secret") = none
        ∧ k'.entries.lookup ("com.byte.app", "serverURL") = some [0x68] := by
  intro c k actions
  have hk : Works k := ⟨rfl, rfl⟩
  have hreadable : ∀ key, ¬ Unreadable "com.byte.app" k key := by
    rintro key ⟨bytes, hb, ht⟩
    obtain ⟨before, after, he, -⟩ := List.lookup_eq_some_iff.1 hb
    have hmem : (("com.byte.app", key), bytes) ∈ k.entries := by simp [he]
    simp only [k, List.mem_cons, List.not_mem_nil, Prod.mk.injEq, or_false] at hmem
    obtain ⟨-, rfl⟩ | ⟨⟨h, -⟩, -⟩ := hmem
    · cases ht
    · exact absurd h (by decide)
  obtain ⟨⟨m, hm⟩, hsame⟩ := (refines_memory "com.byte.app" hk).1 hreadable
  have houtcomes : (trace (store "com.byte.app") actions k).map (·.1)
      = (trace Memory.store actions m).map (·.1) := by
    rw [← List.forall₂_eq_eq_eq, List.forall₂_map_left_iff, List.forall₂_map_right_iff]
    exact (hsame m hm actions).imp fun _ _ h => h.1
  obtain ⟨-, ⟨_, -, -, hload⟩, k', hclear, hgone⟩ :=
    (refines_memory "other" hk).2 ⟨"secret", by decide, [0xff], rfl, by decide⟩
  exact ⟨hk, ⟨m, hm, houtcomes.symm.trans (by decide +kernel)⟩, ⟨_, congrArg Prod.fst hload⟩, k',
    hclear, hgone "other" "secret", hgone "com.byte.app" "serverURL"⟩

end Keychain

end DeviceAuth
