import Mathlib.Data.List.Nodup
import Mathlib.Tactic.Common
import DeviceAuth.Crypto.Aes256

/-!
# The block cipher permutes blocks

A round substitutes bytes by a table without repetition, moves them about, mixes each column by a
map that is the identity after four times and adds a key. Whatever the round keys are, no step
loses anything, so no two blocks have one encryption (`encrypt_injective`).
-/

namespace DeviceAuth.Crypto

open Function (Injective Involutive)

namespace Quad

variable {α β γ : Type}

theorem map_injective {f : α → β} (hf : Injective f) : Injective (map f) := by
  rintro ⟨a, b, c, d⟩ ⟨a', b', c', d'⟩ h
  simpa only [map, mk.injEq, hf.eq_iff] using h

theorem zipWith_injective {f : α → β → γ} (hf : ∀ y, Injective (f · y)) (q : Quad β) :
    Injective (zipWith f · q) := by
  rintro ⟨a, b, c, d⟩ ⟨a', b', c', d'⟩ h
  simp only [zipWith, mk.injEq] at h
  obtain ⟨ha, hb, hc, hd⟩ := h
  rw [hf _ ha, hf _ hb, hf _ hc, hf _ hd]

end Quad

namespace Aes256

/-! ## Bytes -/

theorem size_substitutions : substitutions.size = 256 := by decide +kernel

set_option maxRecDepth 4000 in
/-- No byte is substituted for two. This is checked on numbers, which are cheaper to compare. -/
theorem nodup_substitutions : (substitutions.toList.map UInt8.toNat).Nodup := by decide +kernel

theorem getElem?_substitutions (b : UInt8) :
    (substitutions.toList.map UInt8.toNat)[b.toNat]? = some (substitute b).toNat := by
  have hsize : b.toNat < substitutions.size := by
    rw [size_substitutions]
    exact b.toNat_lt
  rw [List.getElem?_map, Array.getElem?_toList, Array.getElem?_eq_getElem hsize, substitute,
    Array.getD, dif_pos hsize]
  rfl

theorem substitute_injective : Injective substitute := by
  intro a b h
  have hlength : a.toNat < (substitutions.toList.map UInt8.toNat).length := by
    rw [List.length_map, Array.length_toList, size_substitutions]
    exact a.toNat_lt
  refine UInt8.toNat_inj.1 ((List.getElem?_inj hlength nodup_substitutions).1 ?_)
  rw [getElem?_substitutions, getElem?_substitutions, h]

theorem lt_iff_msb {b : UInt8} : b < 0x80 ↔ b.toBitVec.msb = false := by
  rw [BitVec.msb_eq_decide, decide_eq_false_iff_not, Nat.not_le]
  exact UInt8.lt_iff_toNat_lt

theorem xor_xor_cancel (a b : UInt8) : a ^^^ (a ^^^ b) = b := by
  rw [← UInt8.xor_assoc, UInt8.xor_self, UInt8.zero_xor]

theorem xor_left_comm (a b c : UInt8) : a ^^^ (b ^^^ c) = b ^^^ (a ^^^ c) := by
  rw [← UInt8.xor_assoc, UInt8.xor_comm a, UInt8.xor_assoc]

theorem twice_xor (a b : UInt8) : twice (a ^^^ b) = twice a ^^^ twice b := by
  simp only [twice, lt_iff_msb, UInt8.toBitVec_xor, BitVec.msb_xor, UInt8.shiftLeft_xor]
  cases a.toBitVec.msb <;> cases b.toBitVec.msb <;>
    simp [UInt8.xor_assoc, UInt8.xor_comm, xor_left_comm]

/-! ## Columns -/

/-- The circulant of 2, 3, 1, 1 squared: the odd places cancel, and 5 = 4 + 1 and 4 are left. -/
theorem mixColumn_mixColumn (q : Column) :
    mixColumn (mixColumn q) =
      ⟨q.a ^^^ twice (twice (q.a ^^^ q.c)), q.b ^^^ twice (twice (q.b ^^^ q.d)),
        q.c ^^^ twice (twice (q.c ^^^ q.a)), q.d ^^^ twice (twice (q.d ^^^ q.b))⟩ := by
  simp only [mixColumn, twice_xor, Quad.mk.injEq]
  refine ⟨?_, ?_, ?_, ?_⟩ <;>
    simp only [UInt8.xor_assoc, UInt8.xor_comm, xor_left_comm, xor_xor_cancel, UInt8.xor_self,
      UInt8.xor_zero, UInt8.zero_xor]

/-- What is added to a byte depends on its sum with the byte opposite, which is as it was. -/
theorem mixColumn_involutive_twice : Involutive fun q => mixColumn (mixColumn q) := by
  intro q
  simp only [mixColumn_mixColumn, twice_xor]
  ext <;> simp [UInt8.xor_comm, xor_left_comm]

theorem mixColumn_injective : Injective mixColumn := by
  intro p q h
  exact mixColumn_involutive_twice.injective (congrArg mixColumn h)

theorem addColumn_injective (k : Column) : Injective (addColumn · k) :=
  Quad.zipWith_injective (fun c _ _ h => (UInt8.xor_left_inj c).1 h) k

/-! ## Rounds -/

theorem shiftRows_injective : Injective shiftRows := by
  intro s t h
  simp only [shiftRows, Quad.mk.injEq] at h
  simp only [Quad.ext_iff, h, and_self]

theorem addKey_injective (k : State) : Injective (addKey · k) :=
  Quad.zipWith_injective addColumn_injective k

theorem shifted_injective :
    Injective fun s : State => shiftRows (s.map (·.map substitute)) := by
  intro s t h
  exact Quad.map_injective (Quad.map_injective substitute_injective) (shiftRows_injective h)

theorem lastRound_injective (k : State) : Injective (lastRound · k) := by
  intro s t h
  exact shifted_injective (addKey_injective k h)

theorem round_injective (k : State) : Injective (round · k) := by
  intro s t h
  exact shifted_injective (Quad.map_injective mixColumn_injective (addKey_injective k h))

theorem applyRounds_injective : ∀ keys, Injective (applyRounds keys)
  | [] => fun _ _ h => h
  | [k] => lastRound_injective k
  | k :: l :: keys => fun _ _ h => round_injective k (applyRounds_injective (l :: keys) h)

/-! ## Blocks -/

theorem exists_toList_append : ∀ {bs : Octets} {n : Nat}, bs.length = n + 4 →
    ∃ (q : Column) (rest : Octets), rest.length = n ∧ bs = q.toList ++ rest
  | a :: b :: c :: d :: rest, _, h => ⟨⟨a, b, c, d⟩, rest, by simpa using h, rfl⟩

theorem exists_block_eq (b : Block 16) : ∃ s : State, s.block = b := by
  obtain ⟨bs, h⟩ := b
  obtain ⟨p, bs₁, h₁, rfl⟩ := exists_toList_append (n := 12) h
  obtain ⟨q, bs₂, h₂, rfl⟩ := exists_toList_append (n := 8) h₁
  obtain ⟨r, bs₃, h₃, rfl⟩ := exists_toList_append (n := 4) h₂
  obtain ⟨s, bs₄, h₄, rfl⟩ := exists_toList_append (n := 0) h₃
  obtain rfl : bs₄ = [] := List.length_eq_zero_iff.1 h₄
  exact ⟨⟨p, q, r, s⟩, rfl⟩

theorem ofOctets_injective : Injective fun b : Block 16 => State.ofOctets b.octets := by
  intro b b' h
  obtain ⟨s, rfl⟩ := exists_block_eq b
  obtain ⟨s', rfl⟩ := exists_block_eq b'
  exact congrArg State.block h

theorem block_injective : Injective State.block := by
  rintro ⟨⟨⟩, ⟨⟩, ⟨⟩, ⟨⟩⟩ ⟨⟨⟩, ⟨⟩, ⟨⟩, ⟨⟩⟩ h
  simpa [State.block, Quad.toList, and_assoc] using h

theorem encryptWith_injective (keys : State × List State) : Injective (encryptWith keys) := by
  intro b b' h
  exact ofOctets_injective (addKey_injective keys.1 (applyRounds_injective _ (block_injective h)))

/-- Under one key, different blocks have different encryptions. -/
theorem encrypt_injective (key : Block 32) : Injective (encrypt key) :=
  encryptWith_injective (roundKeys key)

end Aes256

end DeviceAuth.Crypto
