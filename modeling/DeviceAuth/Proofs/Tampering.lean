import DeviceAuth.Proofs.GcmTag
import DeviceAuth.Proofs.SealedKey

/-!
# A sealed blob that was tampered with

A ciphertext has one tag under each nonce and another under every other nonce, so of a blob that
opens every change to the tag alone or to the nonce alone is noticed, whatever the key. A flipped
bit of the ciphertext changes the tag unless the subkey is zero, and then no change to the
ciphertext does. So for every other key one flipped bit is noticed wherever it stands
(`tampering_noticed`).
-/

namespace DeviceAuth

theorem Octets.flipBit_ne {bs : Octets} {i : Nat} (hi : i < 8 * bs.length) : bs.flipBit i ≠ bs := by
  obtain ⟨j, hj⟩ := Crypto.Gcm.terms_flipBit bs i hi
  intro h
  rw [h, left_eq_add] at hj
  exact pow_ne_zero j Polynomial.X_ne_zero hj

theorem Block.exists_flipBit {n : Nat} (b : Block n) {i : Nat} (hi : i < 8 * n) :
    ∃ b' : Block n, b' ≠ b ∧ b'.octets = b.octets.flipBit i := by
  refine ⟨⟨b.octets.flipBit i, by rw [Octets.length_flipBit, b.length_octets]⟩, ?_, rfl⟩
  intro h
  refine Octets.flipBit_ne ?_ (congrArg Block.octets h)
  rwa [b.length_octets]

namespace SealedKey

variable {key : DerivedKey} {c : Octets} {n : Block 12} {t : Block 16} {plaintext : Octets}

theorem tag_eq_of_decrypt (h : decrypt key (c ++ n.octets ++ t.octets) = .ok plaintext) :
    Crypto.Gcm.tag key.bytes n c = t := by
  have hopen := decrypt_octets key ⟨c, n, t⟩
  rw [Blob.octets, h] at hopen
  by_contra htag
  rw [if_neg htag] at hopen
  cases hopen

theorem decrypt_of_tag_ne (h : Crypto.Gcm.tag key.bytes n c ≠ t) :
    decrypt key (c ++ n.octets ++ t.octets) = .error .authenticationFailed := by
  have hopen := decrypt_octets key ⟨c, n, t⟩
  rwa [if_neg h] at hopen

theorem decrypt_tag (key : DerivedKey) (c : Octets) (n : Block 12) :
    decrypt key (c ++ n.octets ++ (Crypto.Gcm.tag key.bytes n c).octets) =
      .ok (Crypto.Gcm.mask key.bytes n c) := by
  have hopen := decrypt_octets key ⟨c, n, Crypto.Gcm.tag key.bytes n c⟩
  rwa [if_pos rfl] at hopen

/-- One flipped bit of a blob is in the ciphertext, the nonce or the tag. -/
theorem flipBit_blob (c : Octets) (n : Block 12) (t : Block 16) {i : Nat}
    (hi : i < 8 * (c.length + 28)) :
    (i < 8 * c.length
        ∧ Octets.flipBit (c ++ n.octets ++ t.octets) i = c.flipBit i ++ n.octets ++ t.octets)
      ∨ (∃ n' ≠ n, Octets.flipBit (c ++ n.octets ++ t.octets) i = c ++ n'.octets ++ t.octets)
      ∨ ∃ t' ≠ t, Octets.flipBit (c ++ n.octets ++ t.octets) i = c ++ n.octets ++ t'.octets := by
  have hcn : (c ++ n.octets).length = c.length + 12 := by
    rw [List.length_append, n.length_octets]
  rcases Nat.lt_or_ge i (8 * (c ++ n.octets).length) with hlow | hhigh
  · rw [Octets.flipBit_append_of_lt _ _ hlow]
    rcases Nat.lt_or_ge i (8 * c.length) with hc | hc
    · rw [Octets.flipBit_append_of_lt _ _ hc]
      exact .inl ⟨hc, rfl⟩
    · obtain ⟨i, rfl⟩ := Nat.exists_eq_add_of_le hc
      obtain ⟨n', hne, hn'⟩ := n.exists_flipBit (i := i) (by omega)
      rw [Octets.flipBit_append_add, ← hn']
      exact .inr (.inl ⟨n', hne, rfl⟩)
  · obtain ⟨i, rfl⟩ := Nat.exists_eq_add_of_le hhigh
    obtain ⟨t', hne, ht'⟩ := t.exists_flipBit (i := i) (by omega)
    rw [Octets.flipBit_append_add, ← ht']
    exact .inr (.inr ⟨t', hne, rfl⟩)

/-- Of a ciphertext, a nonce and a tag that open, another tag in the place of the tag does not
authenticate, nor does another nonce in the place of the nonce. Under a key that does not encrypt
the zero block to itself no ciphertext with one flipped bit does, and so no blob with one flipped
bit; under one that does every ciphertext would. -/
theorem tampering_noticed (h : decrypt key (c ++ n.octets ++ t.octets) = .ok plaintext) :
    (∀ t' ≠ t, decrypt key (c ++ n.octets ++ t'.octets) = .error .authenticationFailed)
      ∧ (∀ n' ≠ n, decrypt key (c ++ n'.octets ++ t.octets) = .error .authenticationFailed)
      ∧ (Crypto.Aes256.encrypt key.bytes (Block.zeros 16) ≠ Block.zeros 16 →
        (∀ i < 8 * c.length, decrypt key (c.flipBit i ++ n.octets ++ t.octets) =
            .error .authenticationFailed)
          ∧ ∀ i < 8 * (c ++ n.octets ++ t.octets).length,
            decrypt key (Octets.flipBit (c ++ n.octets ++ t.octets) i) =
              .error .authenticationFailed)
      ∧ (Crypto.Aes256.encrypt key.bytes (Block.zeros 16) = Block.zeros 16 →
        ∀ c', ∃ plaintext', decrypt key (c' ++ n.octets ++ t.octets) = .ok plaintext') := by
  obtain rfl := tag_eq_of_decrypt h
  have htag : ∀ t' ≠ Crypto.Gcm.tag key.bytes n c,
      decrypt key (c ++ n.octets ++ t'.octets) = .error .authenticationFailed :=
    fun t' hne => decrypt_of_tag_ne hne.symm
  have hnonce : ∀ n' ≠ n, decrypt key (c ++ n'.octets ++ (Crypto.Gcm.tag key.bytes n c).octets) =
      .error .authenticationFailed :=
    fun n' hne => decrypt_of_tag_ne fun heq =>
      hne (Crypto.Gcm.tag_injective_nonce key.bytes c heq)
  refine ⟨htag, hnonce, fun hkey => ?_, fun hkey c' => ?_⟩
  · have hciphertext : ∀ i < 8 * c.length, decrypt key
        (c.flipBit i ++ n.octets ++ (Crypto.Gcm.tag key.bytes n c).octets) =
          .error .authenticationFailed :=
      fun i hi => decrypt_of_tag_ne (Crypto.Gcm.tag_flipBit_ne key.bytes hkey n hi)
    refine ⟨hciphertext, fun i hi => ?_⟩
    rw [List.length_append, List.length_append, n.length_octets, Block.length_octets,
      Nat.add_assoc] at hi
    rcases flipBit_blob c n (Crypto.Gcm.tag key.bytes n c) hi with
      ⟨hc, heq⟩ | ⟨n', hne, heq⟩ | ⟨t', hne, heq⟩
    · rw [heq]
      exact hciphertext i hc
    · rw [heq]
      exact hnonce n' hne
    · rw [heq]
      exact htag t' hne
  · rw [Crypto.Gcm.tag_eq_of_encrypt_zeros key.bytes hkey n c c']
    exact ⟨_, decrypt_tag key c' n⟩

theorem tampering_noticed_under_zero_key :
    let key : DerivedKey := ⟨Block.zeros 32⟩
    let blob := encrypt key (Block.zeros 12) [0x2a]
    decrypt key blob = .ok [0x2a]
      ∧ Crypto.Aes256.encrypt key.bytes (Block.zeros 16) ≠ Block.zeros 16
      ∧ ∀ i < 8 * blob.length, decrypt key (blob.flipBit i) = .error .authenticationFailed := by
  intro key blob
  have hopen : decrypt key blob = .ok [0x2a] := decrypt_encrypt key (Block.zeros 12) [0x2a]
  have hkey : Crypto.Aes256.encrypt key.bytes (Block.zeros 16) ≠ Block.zeros 16 := by
    decide +kernel
  exact ⟨hopen, hkey, ((tampering_noticed hopen).2.2.1 hkey).2⟩

end SealedKey

end DeviceAuth
