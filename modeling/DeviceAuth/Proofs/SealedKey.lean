import Mathlib.Tactic.Common
import DeviceAuth.Credential
import DeviceAuth.Proofs.Result

/-!
# Key material and what it is sealed in

From 28 bytes on, any byte string is a ciphertext, a nonce and a tag (`Blob.exists_octets_eq`). So
under one key the blobs that open are those that sealing writes, each to what was sealed in it; a
blob that is too short is malformed, and any other that does not open fails to authenticate
(`opens_exactly_sealed`).
-/

namespace DeviceAuth

namespace SealedKey

/-- A blob taken apart. -/
structure Blob where
  ciphertext : Octets
  nonce : Block 12
  tag : Block 16

namespace Blob

def octets (b : Blob) : Octets := b.ciphertext ++ b.nonce.octets ++ b.tag.octets

theorem length_octets (b : Blob) : b.octets.length = b.ciphertext.length + 28 := by
  simp only [octets, List.length_append, Block.length_octets]

theorem length_octets_sub (b : Blob) : b.octets.length - 28 = b.ciphertext.length := by
  rw [length_octets, Nat.add_sub_cancel]

theorem take_octets (b : Blob) : b.octets.take b.ciphertext.length = b.ciphertext := by
  rw [octets, List.append_assoc, List.take_left' rfl]

theorem drop_octets (b : Blob) :
    b.octets.drop b.ciphertext.length = b.nonce.octets ++ b.tag.octets := by
  rw [octets, List.append_assoc, List.drop_left' rfl]

theorem take_drop_octets (b : Blob) :
    (b.octets.drop b.ciphertext.length).take 12 = b.nonce.octets := by
  rw [drop_octets, List.take_left' b.nonce.length_octets]

theorem drop_octets_tag (b : Blob) : b.octets.drop (b.octets.length - 16) = b.tag.octets := by
  have h : b.octets.length - 16 = (b.ciphertext ++ b.nonce.octets).length := by
    rw [length_octets, List.length_append, Block.length_octets]
    omega
  rw [h, octets, List.drop_left' rfl]

/-- Nothing but its length makes bytes a blob. -/
theorem exists_octets_eq {s : Octets} (h : 28 ≤ s.length) : ∃ b : Blob, b.octets = s := by
  obtain ⟨n, hn⟩ : ∃ n, s.length = n + 28 := ⟨s.length - 28, by omega⟩
  have hnonce : ((s.drop n).take 12).length = 12 := by
    rw [List.length_take, List.length_drop]
    omega
  have htag : ((s.drop n).drop 12).length = 16 := by
    rw [List.length_drop, List.length_drop]
    omega
  refine ⟨⟨s.take n, ⟨_, hnonce⟩, ⟨_, htag⟩⟩, ?_⟩
  rw [octets, List.append_assoc, List.take_append_drop, List.take_append_drop]

end Blob

variable {key : DerivedKey}

/-- A blob opens if its tag is the one that its ciphertext has under its nonce. -/
theorem decrypt_octets (key : DerivedKey) (b : Blob) :
    decrypt key b.octets =
      if Crypto.Gcm.tag key.bytes b.nonce b.ciphertext = b.tag then
        .ok (Crypto.Gcm.mask key.bytes b.nonce b.ciphertext)
      else .error .authenticationFailed := by
  have hlen : 28 ≤ b.octets.length := by
    rw [Blob.length_octets]
    omega
  have hnonce : ∀ h, Block.take 12 (b.octets.drop b.ciphertext.length) h = b.nonce := fun h =>
    Block.ext b.take_drop_octets
  have htag : ∀ h, (⟨b.octets.drop (b.octets.length - 16), h⟩ : Block 16) = b.tag := fun h =>
    Block.ext b.drop_octets_tag
  simp only [decrypt, dif_pos hlen, htag, Blob.length_octets_sub, Blob.take_octets, hnonce]

theorem decrypt_of_length_lt {s : Octets} (h : s.length < 28) :
    decrypt key s = .error .malformedCiphertext := by
  rw [decrypt, dif_neg (by omega)]

def parts (key : DerivedKey) (nonce : Block 12) (plaintext : Octets) : Blob where
  ciphertext := Crypto.Gcm.mask key.bytes nonce plaintext
  nonce := nonce
  tag := Crypto.Gcm.tag key.bytes nonce (Crypto.Gcm.mask key.bytes nonce plaintext)

theorem encrypt_eq_octets (key : DerivedKey) (nonce : Block 12) (plaintext : Octets) :
    encrypt key nonce plaintext = (parts key nonce plaintext).octets := rfl

theorem length_parts_ciphertext (key : DerivedKey) (nonce : Block 12) (plaintext : Octets) :
    (parts key nonce plaintext).ciphertext.length = plaintext.length :=
  Crypto.Gcm.length_mask key.bytes nonce plaintext

theorem length_encrypt (key : DerivedKey) (nonce : Block 12) (plaintext : Octets) :
    (encrypt key nonce plaintext).length = plaintext.length + 28 := by
  rw [encrypt_eq_octets, Blob.length_octets, length_parts_ciphertext]

theorem nonce_encrypt (key : DerivedKey) (nonce : Block 12) (plaintext : Octets) :
    ((encrypt key nonce plaintext).drop plaintext.length).take 12 = nonce.octets := by
  rw [encrypt_eq_octets, ← length_parts_ciphertext key nonce, Blob.take_drop_octets]
  rfl

/-- Of a blob that was sealed, the nonce can be read off. -/
theorem exists_encrypt_iff_nonce {s plaintext : Octets} :
    (∃ nonce, s = encrypt key nonce plaintext) ↔
      ∃ nonce : Block 12, (s.drop (s.length - 28)).take 12 = nonce.octets
        ∧ s = encrypt key nonce plaintext := by
  refine ⟨?_, ?_⟩
  · rintro ⟨nonce, rfl⟩
    refine ⟨nonce, ?_, rfl⟩
    rw [length_encrypt, Nat.add_sub_cancel, nonce_encrypt]
  · rintro ⟨nonce, -, h⟩
    exact ⟨nonce, h⟩

/-- What is sealed opens again. -/
theorem decrypt_encrypt (key : DerivedKey) (nonce : Block 12) (plaintext : Octets) :
    decrypt key (encrypt key nonce plaintext) = .ok plaintext := by
  rw [encrypt_eq_octets, decrypt_octets]
  simp only [parts, if_true, Crypto.Gcm.mask_mask]

theorem exists_encrypt_of_decrypt {s plaintext : Octets} (h : decrypt key s = .ok plaintext) :
    ∃ nonce, s = encrypt key nonce plaintext := by
  rcases Nat.lt_or_ge s.length 28 with hlen | hlen
  · rw [decrypt_of_length_lt hlen] at h
    cases h
  · obtain ⟨b, rfl⟩ := Blob.exists_octets_eq hlen
    rw [decrypt_octets] at h
    split_ifs at h with htag
    obtain rfl := Except.ok.inj h
    obtain ⟨ciphertext, nonce, tag⟩ := b
    simp only at htag
    exact ⟨nonce, by rw [encrypt_eq_octets, parts, Crypto.Gcm.mask_mask, htag]⟩

theorem decrypt_eq_ok_iff {s plaintext : Octets} :
    decrypt key s = .ok plaintext ↔ ∃ nonce, s = encrypt key nonce plaintext := by
  refine ⟨exists_encrypt_of_decrypt, ?_⟩
  rintro ⟨nonce, rfl⟩
  exact decrypt_encrypt key nonce plaintext

theorem forall_ne_encrypt_iff {s : Octets} :
    (∀ nonce plaintext, s ≠ encrypt key nonce plaintext) ↔
      ∀ plaintext, decrypt key s ≠ .ok plaintext := by
  simp only [ne_eq, decrypt_eq_ok_iff, not_exists]
  exact forall_comm

/-- Why a blob does not open: it is too short, or nobody sealed it. -/
theorem decrypt_eq_error_iff {s : Octets} {e : DecryptError} :
    decrypt key s = .error e ↔
      s.length < 28 ∧ e = .malformedCiphertext
        ∨ (28 ≤ s.length ∧ ∀ nonce plaintext, s ≠ encrypt key nonce plaintext)
          ∧ e = .authenticationFailed := by
  rw [forall_ne_encrypt_iff]
  rcases Nat.lt_or_ge s.length 28 with hlen | hlen
  · rw [decrypt_of_length_lt hlen]
    simp [hlen, Nat.not_le.2 hlen, eq_comm]
  · obtain ⟨b, rfl⟩ := Blob.exists_octets_eq hlen
    rw [decrypt_octets]
    split_ifs <;> simp [hlen, Nat.not_lt.2 hlen, eq_comm]

variable {ρ : Type}

theorem encryptWith_of_fill {R : RandomSource ρ} {r r' : ρ} {nonce : Block 12}
    (h : R.fill 12 r = (.ok nonce, r')) (key : DerivedKey) (plaintext : Octets) :
    encryptWith R key plaintext r = (.ok (encrypt key nonce plaintext), r') := by
  simp only [encryptWith, h]

end SealedKey

namespace Credential

open SealedKey

variable {c : Credential} {s plaintext : Octets}

theorem decryptKey_eq_ok_iff :
    c.decryptKey s = .ok plaintext ↔ ∃ nonce, s = encrypt c.keyEncryptionKey nonce plaintext := by
  rw [decryptKey, Except.mapError_eq_ok_iff, decrypt_eq_ok_iff]

/-- A blob that does not open is refused without a reason. -/
theorem decryptKey_eq_error_iff {e : KeyError} :
    c.decryptKey s = .error e ↔
      (∀ nonce plaintext, s ≠ encrypt c.keyEncryptionKey nonce plaintext)
        ∧ e = .decryptionFailed := by
  rw [forall_ne_encrypt_iff, decryptKey]
  rcases decrypt c.keyEncryptionKey s with e' | plaintext
  · simp [Except.mapError, KeyError.ofDecryptError, eq_comm]
  · simp [Except.mapError]

end Credential

/-- A blob is the plaintext under the cipher's stream, the nonce and the tag, 28 bytes longer than
the plaintext, and opens to it again. Under one key, opening accepts exactly what sealing writes
with the nonce that stands in the blob; any other blob is malformed if it is shorter than 28 bytes,
and fails to authenticate if it is not. A credential seals and opens in the same way, but refuses
every blob alike. -/
theorem SealedKey.opens_exactly_sealed (key : DerivedKey) (c : Credential) :
    (∀ nonce plaintext,
        let ciphertext := Octets.xor plaintext
          (Crypto.Gcm.keystream key.bytes nonce plaintext.length)
        let blob := encrypt key nonce plaintext
        blob = ciphertext ++ nonce.octets ++ (Crypto.Gcm.tag key.bytes nonce ciphertext).octets
          ∧ blob.length = plaintext.length + 28
          ∧ (blob.drop plaintext.length).take 12 = nonce.octets
          ∧ decrypt key blob = .ok plaintext)
      ∧ (∀ {ρ : Type} (R : RandomSource ρ) r nonce r' plaintext, R.fill 12 r = (.ok nonce, r') →
        encryptWith R key plaintext r = (.ok (encrypt key nonce plaintext), r'))
      ∧ (∀ blob plaintext, decrypt key blob = .ok plaintext ↔
        ∃ nonce : Block 12, (blob.drop (blob.length - 28)).take 12 = nonce.octets
          ∧ blob = encrypt key nonce plaintext)
      ∧ (∀ blob e, decrypt key blob = .error e ↔
        blob.length < 28 ∧ e = .malformedCiphertext
          ∨ (28 ≤ blob.length ∧ ∀ nonce plaintext, blob ≠ encrypt key nonce plaintext)
            ∧ e = .authenticationFailed)
      ∧ (∀ {ρ : Type} (R : RandomSource ρ) r nonce r' plaintext, R.fill 12 r = (.ok nonce, r') →
        c.encryptKey R plaintext r = (.ok (encrypt c.keyEncryptionKey nonce plaintext), r')
          ∧ c.decryptKey (encrypt c.keyEncryptionKey nonce plaintext) = .ok plaintext)
      ∧ (∀ blob plaintext, c.decryptKey blob = .ok plaintext ↔
        ∃ nonce : Block 12, (blob.drop (blob.length - 28)).take 12 = nonce.octets
          ∧ blob = encrypt c.keyEncryptionKey nonce plaintext)
      ∧ ∀ blob e, c.decryptKey blob = .error e ↔
        (∀ nonce plaintext, blob ≠ encrypt c.keyEncryptionKey nonce plaintext)
          ∧ e = .decryptionFailed := by
  refine ⟨fun nonce plaintext => ⟨rfl, length_encrypt key nonce plaintext,
      nonce_encrypt key nonce plaintext, decrypt_encrypt key nonce plaintext⟩,
    fun R r nonce r' plaintext h => encryptWith_of_fill h key plaintext,
    fun blob plaintext => ?_, fun blob e => decrypt_eq_error_iff,
    fun R r nonce r' plaintext h => ⟨encryptWith_of_fill h c.keyEncryptionKey plaintext, ?_⟩,
    fun blob plaintext => ?_, fun blob e => Credential.decryptKey_eq_error_iff⟩
  · rw [decrypt_eq_ok_iff, exists_encrypt_iff_nonce]
  · exact Credential.decryptKey_eq_ok_iff.2 ⟨nonce, rfl⟩
  · rw [Credential.decryptKey_eq_ok_iff, exists_encrypt_iff_nonce]

end DeviceAuth
