import Mathlib.Tactic.Common
import DeviceAuth.Command.Devices
import DeviceAuth.Proofs.Base64
import DeviceAuth.Proofs.Gate
import DeviceAuth.Proofs.Verification

/-!
# What an invitation delivers

A device that takes an invitation has the address and the name as they were given and the root that
its server derives for it again, and still has them once they were saved and loaded
(`Command.delivers_root`). The one thing that could get lost on the way, the root as a text, is read
back as it was written (`decodeRootKey_encodeRootKey`).
-/

namespace DeviceAuth

theorem decodeRootKey_encodeRootKey (root : RootKey) :
    decodeRootKey (encodeRootKey root) = .ok root := by
  have hdecode := Base64.Alphabet.decode?_encode Base64.Alphabet.lawful_standard root.bytes.octets
  simp only [decodeRootKey, encodeRootKey, String.toList_ofList, hdecode, Block.ofOctets?_octets]

theorem Authority.ofSeed_eq_error_iff {seed : Octets} :
    (∃ e, ofSeed seed = .error e) ↔ seed.length < minSeedLength := by
  unfold ofSeed
  split_ifs with h <;> simp [h]

namespace Command

variable {a : Authority} {serverUrl : String} {id : DeviceId}

/-- The invitation of a device. -/
def invitationOf (a : Authority) (serverUrl : String) (id : DeviceId) : Invitation :=
  ⟨serverUrl, id.text, encodeRootKey (a.deviceRoot id)⟩

theorem rootKey_invitationOf (a : Authority) (serverUrl : String) (id : DeviceId) :
    (invitationOf a serverUrl id).settings.rootKey = .ok (a.deviceRoot id) :=
  decodeRootKey_encodeRootKey (a.deviceRoot id)

/-- Of what a server invites a device to, only the address can be wrong. -/
theorem validate_invitationOf (a : Authority) (serverUrl : String) (id : DeviceId) :
    (invitationOf a serverUrl id).settings.validate = validateServerUrl serverUrl := by
  have hid : DeviceId.isValid (invitationOf a serverUrl id).settings.deviceId = true := id.valid
  rw [Settings.validate_eq, rootKey_invitationOf, if_pos hid]
  rfl

theorem invite_eq (a : Authority) (serverUrl : String) (id : DeviceId) :
    invite a serverUrl id =
      ((validateServerUrl serverUrl).mapError .invitation).map fun _ =>
        invitationOf a serverUrl id := by
  rw [← validate_invitationOf a serverUrl id]
  exact Except.bind_pure_const _ _

theorem ofInvitation_invitationOf (h : validateServerUrl serverUrl = .ok ()) :
    Settings.ofInvitation (invitationOf a serverUrl id).toJson
      = .ok (invitationOf a serverUrl id).settings := by
  have hread : Invitation.ofJson (invitationOf a serverUrl id).toJson
      = .ok (invitationOf a serverUrl id).settings.invitation := Invitation.ofJson_toJson _
  rw [Settings.ofInvitation_of_ofJson hread, validate_invitationOf, h]
  rfl

variable {ρ : Type} (R : RandomSource ρ) (r : ρ)

theorem chooseDevice_of_text (id : DeviceId) : chooseDevice R (some id.text) r = (.ok id, r) := by
  simp only [chooseDevice, DeviceId.parse, DeviceId.parse?_text]
  rfl

theorem chooseDevice_of_invalid {device : String} (h : DeviceId.isValid device = false) :
    chooseDevice R (some device) r = (.error (.deviceId .invalidIdentity), r) := by
  simp only [chooseDevice, DeviceId.parse, DeviceId.parse?, h]
  rfl

theorem provision_of_device {seed : String} (h : Authority.ofSeed (.ofString seed) = .ok a)
    (serverUrl : String) (id : DeviceId) :
    provision R seed serverUrl (some id.text) r =
      ((invite a serverUrl id).map fun i => i.toJson ++ "\n", r) := by
  simp only [provision, h, chooseDevice_of_text]

theorem provision_of_url {seed : String} (h : Authority.ofSeed (.ofString seed) = .ok a)
    (hurl : validateServerUrl serverUrl = .ok ()) (id : DeviceId) :
    provision R seed serverUrl (some id.text) r =
      (.ok ((invitationOf a serverUrl id).toJson ++ "\n"), r) := by
  rw [provision_of_device R r h, invite_eq, hurl]
  rfl

/-- A device is invited unless the seed is too short, or its name or the address is refused. -/
theorem provision_eq_error_iff (seed serverUrl device : String) :
    (∃ f, (provision R seed serverUrl (some device) r).1 = .error f) ↔
      (Octets.ofString seed).length < 32 ∨ DeviceId.isValid device = false
        ∨ ∃ e, validateServerUrl serverUrl = .error e := by
  rcases hs : Authority.ofSeed (.ofString seed) with e | a
  · have hlen : (Octets.ofString seed).length < 32 := Authority.ofSeed_eq_error_iff.1 ⟨e, hs⟩
    simp [provision, hs, hlen]
  · have hlen : ¬ (Octets.ofString seed).length < 32 := fun h => by
      obtain ⟨e, he⟩ := Authority.ofSeed_eq_error_iff.2 h
      cases hs.symm.trans he
    by_cases hv : DeviceId.isValid device = true
    · have hp := provision_of_device R r hs serverUrl ⟨device, hv⟩
      rw [hp, invite_eq]
      rcases validateServerUrl serverUrl with e | u <;>
        simp [hlen, hv, Except.map, Except.mapError]
    · rw [Bool.not_eq_true] at hv
      simp [provision, hs, chooseDevice_of_invalid R r hv, hv]

/-- For a seed that is long enough and an address that is accepted, whatever comes after its
authority, the invitation of any device is taken as settings with the address and the name as they
were given and the root that the server derives for the device. They come back from any faithful
store that they were saved in, and they make up the very credential that the server has for the
device. Inviting a device of a given name fails exactly if the seed is too short, or the name or the
address is refused, and any three texts survive being an invitation. -/
theorem delivers_root :
    (∀ (seed serverUrl : String) (id : DeviceId), 32 ≤ (Octets.ofString seed).length →
        validateServerUrl serverUrl = .ok () →
        ∃ a json c root credential, Authority.ofSeed (.ofString seed) = .ok a
          ∧ provision R seed serverUrl (some id.text) r = (.ok (json ++ "\n"), r)
          ∧ Settings.ofInvitation json = .ok c
          ∧ c.serverUrl = serverUrl ∧ c.deviceId = id.text ∧ c.timeoutSeconds = 30
          ∧ c.rootKey = .ok root ∧ root = a.deviceRoot id
          ∧ (∀ {σ : Type} (S : Store σ) ok read, S.Faithful ok read → ∀ s, ok s →
            ∃ s', Session.save S c s = (.ok (), s') ∧ (Session.load S s').1 = .ok (some c))
          ∧ Credential.ofParts root.bytes.octets c.deviceId = .ok credential
          ∧ a.credential id.text = .ok credential)
      ∧ (∀ seed serverUrl device : String,
        (∃ f, (provision R seed serverUrl (some device) r).1 = .error f) ↔
          (Octets.ofString seed).length < 32 ∨ DeviceId.isValid device = false
            ∨ ∃ e, validateServerUrl serverUrl = .error e)
      ∧ ∀ i : Invitation, Invitation.ofJson i.toJson = .ok i := by
  refine ⟨fun seed serverUrl id hseed hurl => ?_, provision_eq_error_iff R r,
    Invitation.ofJson_toJson⟩
  obtain ⟨a, ha⟩ := Authority.ofSeed_eq_ok hseed
  have hvalid : (invitationOf a serverUrl id).settings.validate = .ok () := by
    rw [validate_invitationOf, hurl]
  refine ⟨a, _, _, _, ⟨a.deviceRoot id, id⟩, ha, provision_of_url R r ha hurl id,
    ofInvitation_invitationOf hurl, rfl, rfl, rfl, rootKey_invitationOf a serverUrl id, rfl,
    fun S ok read hS s hs => ?_, Credential.ofParts_text _ id,
    Authority.credential_text a id⟩
  obtain ⟨s', hsave, hs', hholds⟩ := Session.save_faithful hS hvalid hs
  refine ⟨s', hsave, ?_⟩
  rw [Session.load_faithful hS hs' hholds, hvalid]
  rfl

/-- An address with a quote, a backslash and a line break after its `#` survives the whole way, into
a keychain and out of it. -/
theorem delivers_root_with_fragment :
    let serverUrl := "https://byte.example.com/é?q#\"\\\n"
    let id : DeviceId := ⟨"c0ffee00-0000-4000-8000-00000000000A", rfl⟩
    ∃ json c k, provision Entropy.source "0123456789abcdef0123456789abcdef" serverUrl (some id.text)
        (.counting 0) = (.ok (json ++ "\n"), .counting 0)
      ∧ Settings.ofInvitation json = .ok c
      ∧ Session.save (Keychain.store Keychain.defaultService) c .empty = (.ok (), k)
      ∧ (Session.load (Keychain.store Keychain.defaultService) k).1 = .ok (some c)
      ∧ c.serverUrl = serverUrl := by
  intro serverUrl id
  have hempty : Keychain.InOrder Keychain.defaultService .empty := by
    refine ⟨rfl, rfl, ?_⟩
    simp [Keychain.empty]
  obtain ⟨a, json, c, root, credential, -, hp, hc, hurl, -, -, -, -, hstore, -⟩ :=
    (delivers_root Entropy.source (.counting 0)).1 "0123456789abcdef0123456789abcdef" serverUrl id
      (by decide) (by decide +kernel)
  obtain ⟨k, hsave, hload⟩ := hstore _ _ _ (Keychain.faithful _) .empty hempty
  exact ⟨json, c, k, hp, hc, hsave, hload, hurl⟩

end Command

end DeviceAuth
