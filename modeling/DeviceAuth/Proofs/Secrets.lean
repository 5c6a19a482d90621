import Mathlib.Tactic.Common
import DeviceAuth.Proofs.Provisioning

/-!
# Root secrets and their texts

Each root secret has one text that is read as it, of 44 characters, and that is the text an
invitation carries (`RootKey.one_text_each`). What decoding any other text reports is decided by the
one question whether it is the base64 text of some bytes (`decodeRootKey_cases`).
-/

namespace DeviceAuth

/-- With padding, every three bytes and every rest take four characters. -/
theorem Base64.Alphabet.length_encode {α : Alphabet} (hα : α.padded = true) : ∀ bs : Octets,
    (α.encode bs).length = (bs.length + 2) / 3 * 4
  | [] => rfl
  | [a] => by simp [encode, padding, hα]
  | [a, b] => by simp [encode, padding, hα]
  | a :: b :: c :: rest => by
    simp only [encode, List.length_cons, length_encode hα rest]
    omega

/-- The text of any bytes, as secrets are written. -/
def secretText (bytes : Octets) : String := String.ofList (Base64.standard.encode bytes)

theorem secretText_inj {bytes bytes' : Octets} : secretText bytes = secretText bytes' ↔
    bytes = bytes' := by
  rw [secretText, secretText, String.ofList_inj]
  exact (Base64.Alphabet.encode_injective Base64.Alphabet.lawful_standard).eq_iff

theorem decode?_eq_some_iff_secretText {s : String} {bytes : Octets} :
    Base64.standard.decode? s.toList = some bytes ↔ s = secretText bytes := by
  rw [Base64.Alphabet.decode?_eq_some_iff Base64.Alphabet.lawful_standard, secretText,
    ← String.toList_inj, String.toList_ofList]

/-- What a secret is refused for whose bytes are too few or too many. -/
def wrongLength (n : Nat) : ConfigError :=
  .invalidSecret ("decodes to " ++ Nat.repr n ++ " bytes, expected 32")

/-- What a secret is refused for that stands for no bytes. -/
def notBase64 : ConfigError := .invalidSecret "must be valid base64"

/-- The length can be read off the message. -/
theorem wrongLength_inj {m n : Nat} : wrongLength m = wrongLength n ↔ m = n := by
  refine ⟨fun h => ?_, fun h => h ▸ rfl⟩
  rw [wrongLength, wrongLength, ConfigError.invalidSecret.injEq, ← String.toList_inj] at h
  simp only [String.toList_append, List.append_cancel_left_eq, List.append_cancel_right_eq,
    Nat.toList_repr] at h
  rw [← Nat.ofDigitChars_ten_toDigits (n := m), h, Nat.ofDigitChars_ten_toDigits]

theorem wrongLength_ne_notBase64 (n : Nat) : wrongLength n ≠ notBase64 := by
  intro h
  have := congrArg (·.toList.head?) (ConfigError.invalidSecret.inj h)
  simp at this

/-- All that decoding a secret comes to. -/
theorem decodeRootKey_cases (s : String) :
    (∃ root, s = encodeRootKey root ∧ decodeRootKey s = .ok root)
      ∨ (∃ bytes, s = secretText bytes ∧ bytes.length ≠ 32
        ∧ decodeRootKey s = .error (wrongLength bytes.length))
      ∨ ((∀ bytes, s ≠ secretText bytes) ∧ decodeRootKey s = .error notBase64) := by
  rcases hs : Base64.standard.decode? s.toList with _ | bytes
  · refine .inr (.inr ⟨fun bytes h => ?_, ?_⟩)
    · cases hs.symm.trans (decode?_eq_some_iff_secretText.2 h)
    · simp only [decodeRootKey, hs, notBase64]
  · obtain rfl := decode?_eq_some_iff_secretText.1 hs
    by_cases hlength : bytes.length = 32
    · exact .inl ⟨⟨⟨bytes, hlength⟩⟩, rfl, decodeRootKey_encodeRootKey ⟨⟨bytes, hlength⟩⟩⟩
    · refine .inr (.inl ⟨bytes, rfl, hlength, ?_⟩)
      simp only [decodeRootKey, hs, Block.ofOctets?, dif_neg hlength, wrongLength]

theorem decodeRootKey_eq_ok_iff {s : String} {root : RootKey} :
    decodeRootKey s = .ok root ↔ s = encodeRootKey root := by
  refine ⟨fun h => ?_, fun h => h ▸ decodeRootKey_encodeRootKey root⟩
  rcases decodeRootKey_cases s with ⟨root', hs, h'⟩ | ⟨_, -, -, h'⟩ | ⟨-, h'⟩
  · obtain rfl := Except.ok.inj (h'.symm.trans h)
    exact hs
  · cases h'.symm.trans h
  · cases h'.symm.trans h

theorem decodeRootKey_eq_wrongLength_iff {s : String} {n : Nat} :
    decodeRootKey s = .error (wrongLength n) ↔
      n ≠ 32 ∧ ∃ bytes, bytes.length = n ∧ s = secretText bytes := by
  refine ⟨fun h => ?_, ?_⟩
  · rcases decodeRootKey_cases s with ⟨root, -, h'⟩ | ⟨bytes, hs, hlength, h'⟩ | ⟨-, h'⟩
    · cases h'.symm.trans h
    · obtain rfl := wrongLength_inj.1 (Except.error.inj (h'.symm.trans h))
      exact ⟨hlength, bytes, rfl, hs⟩
    · exact absurd (Except.error.inj (h.symm.trans h')) (wrongLength_ne_notBase64 n)
  · rintro ⟨hn, bytes, rfl, rfl⟩
    rcases decodeRootKey_cases (secretText bytes) with
      ⟨root, hs, -⟩ | ⟨bytes', hs, -, h⟩ | ⟨hs, -⟩
    · rw [show bytes = root.bytes.octets from secretText_inj.1 hs] at hn
      exact absurd root.bytes.length_octets hn
    · rw [h, secretText_inj.1 hs]
    · exact absurd rfl (hs bytes)

theorem decodeRootKey_eq_notBase64_iff {s : String} :
    decodeRootKey s = .error notBase64 ↔ ∀ bytes, s ≠ secretText bytes := by
  refine ⟨fun h => ?_, fun h => ?_⟩
  · rcases decodeRootKey_cases s with ⟨root, -, h'⟩ | ⟨bytes, -, -, h'⟩ | ⟨hs, -⟩
    · cases h'.symm.trans h
    · exact absurd (Except.error.inj (h'.symm.trans h)) (wrongLength_ne_notBase64 _)
    · exact hs
  · rcases decodeRootKey_cases s with ⟨root, hs, -⟩ | ⟨bytes, hs, -, -⟩ | ⟨-, h'⟩
    · exact absurd hs (h root.bytes.octets)
    · exact absurd hs (h bytes)
    · exact h'

namespace Command

/-- What inviting a device prints. -/
theorem provision_eq_ok_iff {ρ : Type} (R : RandomSource ρ) (r : ρ) (seed serverUrl : String)
    (device : Option String) (out : String) :
    (provision R seed serverUrl device r).1 = .ok out ↔
      ∃ a id, Authority.ofSeed (.ofString seed) = .ok a ∧ (chooseDevice R device r).1 = .ok id
        ∧ validateServerUrl serverUrl = .ok ()
        ∧ out = (invitationOf a serverUrl id).toJson ++ "\n" := by
  rcases hseed : Authority.ofSeed (.ofString seed) with e | a
  · simp [provision, hseed]
  · rcases hdevice : chooseDevice R device r with ⟨e | id, r'⟩
    · simp [provision, hseed, hdevice]
    · simp only [provision, hseed, hdevice, invite_eq]
      rcases validateServerUrl serverUrl with e | u <;>
        simp [Except.map, Except.mapError, eq_comm]

end Command

/-- A text is read as a root secret if and only if it is the one that the root is written as, which
has 44 characters. Any other text is refused as a secret: for its length, if it is the text of so
many bytes, and for not being base64, if it is the text of none. A server prints an invitation
exactly if its seed is long enough, there is a device to invite and the address is accepted, and the
secret in it is the text of the root that it derives for the device. -/
theorem RootKey.one_text_each :
    (∀ (s : String) (root : RootKey), decodeRootKey s = .ok root ↔ s = encodeRootKey root)
      ∧ (∀ root, (encodeRootKey root).length = 44)
      ∧ (∀ s, (∃ root, decodeRootKey s = .ok root)
        ∨ ∃ why, decodeRootKey s = .error (.invalidSecret why))
      ∧ (∀ s n, decodeRootKey s
            = .error (.invalidSecret ("decodes to " ++ Nat.repr n ++ " bytes, expected 32")) ↔
          n ≠ 32 ∧ ∃ bytes, bytes.length = n ∧ s = secretText bytes)
      ∧ (∀ s, decodeRootKey s = .error (.invalidSecret "must be valid base64") ↔
          ∀ bytes, s ≠ secretText bytes)
      ∧ ∀ {ρ : Type} (R : RandomSource ρ) r seed serverUrl device out,
        (Command.provision R seed serverUrl device r).1 = .ok out ↔
          ∃ a id, Authority.ofSeed (.ofString seed) = .ok a
            ∧ (Command.chooseDevice R device r).1 = .ok id
            ∧ validateServerUrl serverUrl = .ok ()
            ∧ out = Invitation.toJson ⟨serverUrl, id.text, encodeRootKey (a.deviceRoot id)⟩
              ++ "\n" := by
  refine ⟨fun s root => decodeRootKey_eq_ok_iff, fun root => ?_, fun s => ?_,
    fun s n => decodeRootKey_eq_wrongLength_iff, fun s => decodeRootKey_eq_notBase64_iff,
    Command.provision_eq_ok_iff⟩
  · rw [encodeRootKey, String.length_ofList, Base64.Alphabet.length_encode rfl,
      root.bytes.length_octets]
  · rcases decodeRootKey_cases s with ⟨root, -, h⟩ | ⟨bytes, -, -, h⟩ | ⟨-, h⟩
    · exact .inl ⟨root, h⟩
    · exact .inr ⟨_, h⟩
    · exact .inr ⟨_, h⟩

end DeviceAuth
