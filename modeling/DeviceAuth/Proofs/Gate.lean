import Mathlib.Tactic.Common
import DeviceAuth.Proofs.Invitation
import DeviceAuth.Proofs.Result
import DeviceAuth.Proofs.StoreLaws
import DeviceAuth.Request.Channel

/-!
# One gate for settings

Settings are refused for the first of the device's name, the secret and the address that is wrong
(`validate_eq_error_iff`), and are valid if none is. Opening a channel, saving and loading a session
and taking an invitation all refuse exactly the settings that are refused here, and for the same
reason; what comes after the gate never fails (`one_gate`).
-/

namespace DeviceAuth

namespace Settings

variable {c : Settings}

theorem validate_eq (c : Settings) :
    c.validate =
      if DeviceId.isValid c.deviceId then c.rootKey.bind fun _ => validateServerUrl c.serverUrl
      else .error (.invalidDeviceId c.deviceId) := by
  unfold validate DeviceId.parse?
  by_cases h : DeviceId.isValid c.deviceId = true
  · rw [dif_pos h, if_pos h]
    rfl
  · rw [dif_neg h, if_neg h]
    rfl

theorem validateServerUrl_eq_ok_iff {url : String} :
    validateServerUrl url = .ok () ↔ Url.isAbsolute url = true := by
  unfold validateServerUrl
  split_ifs with h <;> simp [h]

theorem validate_eq_ok_iff :
    c.validate = .ok () ↔ DeviceId.isValid c.deviceId = true ∧ (∃ root, c.rootKey = .ok root)
      ∧ Url.isAbsolute c.serverUrl = true := by
  rw [validate_eq]
  split_ifs with h
  · rcases c.rootKey with e | root
    · simp [h, Except.bind]
    · simp [h, Except.bind, validateServerUrl_eq_ok_iff]
  · simp [h]

/-- What is wrong with settings: the name first, then the secret, then the address. -/
theorem validate_eq_error_iff {e : ConfigError} :
    c.validate = .error e ↔
      DeviceId.isValid c.deviceId = false ∧ e = .invalidDeviceId c.deviceId
        ∨ DeviceId.isValid c.deviceId = true ∧ c.rootKey = .error e
        ∨ DeviceId.isValid c.deviceId = true ∧ (∃ root, c.rootKey = .ok root)
          ∧ Url.isAbsolute c.serverUrl = false ∧ e = .invalidServerUrl c.serverUrl := by
  rw [validate_eq]
  split_ifs with h
  · rcases c.rootKey with e' | root
    · simp [h, Except.bind]
    · simp only [h, Except.bind, validateServerUrl]
      split_ifs with hu <;> simp [hu, eq_comm]
  · simpa [h] using eq_comm

/-- The texts that settings are made of. -/
def invitation (c : Settings) : Invitation := ⟨c.serverUrl, c.deviceId, c.secret⟩

/-- An invitation is taken if its settings are valid. -/
theorem ofInvitation_of_ofJson {json : String} (h : Invitation.ofJson json = .ok c.invitation) :
    ofInvitation json = c.validate.map fun _ => .ofTexts c.serverUrl c.deviceId c.secret := by
  simp only [ofInvitation, h]
  exact Except.bind_pure_const c.validate _

end Settings

namespace Channel

variable {c : Settings}

theorem addressOf_of_isAbsolute {url : String} (h : Url.isAbsolute url = true) :
    ∃ address, addressOf url = .ok address := by
  have hsplit : ∃ address, Url.split? url.toList = some address := by
    rcases hs : Url.split? url.toList with _ | address
    · simp [Url.isAbsolute, hs] at h
    · exact ⟨address, rfl⟩
  obtain ⟨address, hs⟩ := hsplit
  exact ⟨address, by rw [addressOf, if_pos h, hs]⟩

theorem connect_of_invalid {e : ConfigError} (h : c.validate = .error e) :
    connect c = .error (.config e) := by
  rw [connect, h]
  rfl

/-- Once settings are valid, nothing is left that could go wrong. -/
theorem connect_of_valid (h : c.validate = .ok ()) :
    ∃ root credential address, c.rootKey = .ok root
      ∧ Credential.ofParts root.bytes.octets c.deviceId = .ok credential
      ∧ credential.root = root ∧ credential.device.text = c.deviceId
      ∧ connect c = .ok ⟨address, c.timeoutSeconds, credential⟩ := by
  obtain ⟨hid, ⟨root, hroot⟩, hurl⟩ := Settings.validate_eq_ok_iff.1 h
  obtain ⟨address, haddress⟩ := addressOf_of_isAbsolute hurl
  have hparts := Credential.ofParts_text root ⟨c.deviceId, hid⟩
  refine ⟨root, _, address, hroot, hparts, rfl, rfl, ?_⟩
  rw [connect, h, hroot]
  simp only [Except.mapError, bind, Except.bind, hparts, haddress]
  rfl

/-- A channel that is not opened has invalid settings. -/
theorem eq_config_of_connect_eq_error {e : ChannelError} (h : connect c = .error e) :
    ∃ e', c.validate = .error e' ∧ e = .config e' := by
  rcases hv : c.validate with e' | u
  · rw [connect_of_invalid hv] at h
    exact ⟨e', rfl, (Except.error.inj h).symm⟩
  · obtain ⟨_, _, _, -, -, -, -, hch⟩ := connect_of_valid hv
    cases hch.symm.trans h

end Channel

/-- Settings are refused for the first of the device's name, the secret and the address that is
wrong. Then no channel is opened, no session is saved and the store is not even asked, a session
with these values is not loaded and an invitation with them not taken, all for that reason. If they
are valid, the root secret and the credential are there with the texts as they stand, and a channel
is opened, a session saved and loaded, and an invitation taken. So a channel never fails to open
for its key or its address. -/
theorem Settings.one_gate (c : Settings) :
    (∀ e, c.validate = .error e ↔
        DeviceId.isValid c.deviceId = false ∧ e = .invalidDeviceId c.deviceId
          ∨ DeviceId.isValid c.deviceId = true ∧ c.rootKey = .error e
          ∨ DeviceId.isValid c.deviceId = true ∧ (∃ root, c.rootKey = .ok root)
            ∧ Url.isAbsolute c.serverUrl = false ∧ e = .invalidServerUrl c.serverUrl)
      ∧ Invitation.ofJson c.invitation.toJson = .ok c.invitation
      ∧ (∀ e, c.validate = .error e → Channel.connect c = .error (.config e)
        ∧ (∀ {σ : Type} (S : Store σ) s, Session.save S c s = (.error (.refused e), s))
        ∧ (∀ {σ : Type} (S : Store σ) ok read, S.Faithful ok read → ∀ s, ok s →
          Session.Holds (read s) c → (Session.load S s).1 = .error (.invalidStored e))
        ∧ ∀ json, Invitation.ofJson json = .ok c.invitation →
          Settings.ofInvitation json = .error e)
      ∧ (c.validate = .ok () → ∃ root credential, c.rootKey = .ok root
        ∧ Credential.ofParts root.bytes.octets c.deviceId = .ok credential
        ∧ credential.root = root ∧ credential.device.text = c.deviceId
        ∧ (∃ address, Channel.connect c = .ok ⟨address, c.timeoutSeconds, credential⟩)
        ∧ (∀ {σ : Type} (S : Store σ) ok read, S.Faithful ok read → ∀ s, ok s →
          (Session.save S c s).1 = .ok ()
            ∧ (Session.Holds (read s) c → (Session.load S s).1
              = .ok (some ⟨c.serverUrl, c.deviceId, c.secret, 30⟩)))
        ∧ ∀ json, Invitation.ofJson json = .ok c.invitation →
          Settings.ofInvitation json = .ok ⟨c.serverUrl, c.deviceId, c.secret, 30⟩)
      ∧ (∀ e, Channel.connect c ≠ .error (.key e))
      ∧ ∀ why, Channel.connect c ≠ .error (.transport why) := by
  refine ⟨fun e => validate_eq_error_iff, Invitation.ofJson_toJson _, fun e hv => ?_, fun hv => ?_,
    fun e he => ?_, fun why he => ?_⟩
  · refine ⟨Channel.connect_of_invalid hv, fun S s => ?_, fun S ok read hS s hs hc => ?_,
      fun json hj => ?_⟩
    · simp only [Session.save, hv]
    · rw [Session.load_faithful hS hs hc, hv]
    · rw [ofInvitation_of_ofJson hj, hv]
      rfl
  · obtain ⟨root, credential, address, hroot, hparts, hr, hd, hch⟩ := Channel.connect_of_valid hv
    refine ⟨root, credential, hroot, hparts, hr, hd, ⟨address, hch⟩,
      fun S ok read hS s hs => ⟨?_, fun hc => ?_⟩, fun json hj => ?_⟩
    · obtain ⟨s', hsave, -⟩ := Session.save_faithful hS hv hs
      rw [hsave]
    · rw [Session.load_faithful hS hs hc, hv]
      rfl
    · rw [ofInvitation_of_ofJson hj, hv]
      rfl
  · obtain ⟨_, -, h⟩ := Channel.eq_config_of_connect_eq_error he
    cases h
  · obtain ⟨_, -, h⟩ := Channel.eq_config_of_connect_eq_error he
    cases h

end DeviceAuth
