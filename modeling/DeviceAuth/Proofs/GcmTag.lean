import DeviceAuth.Proofs.Aes256
import DeviceAuth.Proofs.Framing
import DeviceAuth.Proofs.GcmElement

/-!
# The tag of another ciphertext or nonce

Under one subkey, flipping a bit of a ciphertext adds to its hash a power of x times a power of the
subkey (`residue_hash_flipBit`), which is not zero unless the subkey is. The hash is masked with
the encryption of a block that holds the nonce, so the tag changes with the hash
(`tag_eq_tag_iff`), and with the nonce in any case (`tag_injective_nonce`).
-/

namespace DeviceAuth

namespace Octets

/-- The byte string with bit `i` the other way round, counted from the lowest bit of the first
byte. -/
def flipBit (bs : Octets) (i : Nat) : Octets :=
  bs.modify (i / 8) (· ^^^ UInt8.ofNat (2 ^ (i % 8)))

@[simp] theorem length_flipBit (bs : Octets) (i : Nat) : (bs.flipBit i).length = bs.length :=
  List.length_modify _ _ _

theorem flipBit_cons_of_lt (b : UInt8) (bs : Octets) {i : Nat} (h : i < 8) :
    flipBit (b :: bs) i = (b ^^^ UInt8.ofNat (2 ^ i)) :: bs := by
  rw [flipBit, Nat.div_eq_of_lt h, Nat.mod_eq_of_lt h, List.modify_zero_cons]

theorem flipBit_cons_add (b : UInt8) (bs : Octets) (i : Nat) :
    flipBit (b :: bs) (i + 8) = b :: bs.flipBit i := by
  rw [flipBit, Nat.add_div_right i (by omega), Nat.add_mod_right, List.modify_succ_cons, flipBit]

theorem flipBit_of_length_le {bs : Octets} {i : Nat} (h : 8 * bs.length ≤ i) :
    bs.flipBit i = bs :=
  List.modify_eq_self (by omega)

theorem take_flipBit (bs : Octets) (n i : Nat) : (bs.flipBit i).take n = flipBit (bs.take n) i :=
  List.take_modify _ _ _ _

theorem drop_flipBit_of_lt (bs : Octets) {n i : Nat} (h : i < 8 * n) :
    (bs.flipBit i).drop n = bs.drop n :=
  List.drop_modify_of_lt _ _ _ _ (by omega)

theorem drop_flipBit_add (bs : Octets) (n i : Nat) :
    (bs.flipBit (8 * n + i)).drop n = flipBit (bs.drop n) i := by
  rw [flipBit, flipBit, Nat.mul_add_div (by omega), Nat.mul_add_mod,
    List.drop_modify_of_ge _ _ _ _ (by omega), Nat.add_sub_cancel_left]

theorem flipBit_append_of_lt (as bs : Octets) {i : Nat} (h : i < 8 * as.length) :
    flipBit (as ++ bs) i = as.flipBit i ++ bs := by
  rw [← List.take_append_drop as.length (flipBit (as ++ bs) i), take_flipBit,
    drop_flipBit_of_lt _ h, List.take_left, List.drop_left]

theorem flipBit_append_add (as bs : Octets) (i : Nat) :
    flipBit (as ++ bs) (8 * as.length + i) = as ++ bs.flipBit i := by
  rw [← List.take_append_drop as.length (flipBit (as ++ bs) _), take_flipBit, drop_flipBit_add,
    List.take_left, List.drop_left, flipBit_of_length_le (Nat.le_add_right _ _)]

theorem xor_comm (a b : Octets) : xor a b = xor b a :=
  List.zipWith_comm_of_comm UInt8.xor_comm

theorem xor_right_cancel {a b k : Octets} (ha : a.length = k.length) (hb : b.length = k.length)
    (h : xor a k = xor b k) : a = b := by
  rw [← xor_xor_cancel_right a k ha.le, h, xor_xor_cancel_right b k hb.le]

end Octets

namespace Crypto.Gcm

open Polynomial

/-! ## Bytes as coefficients -/

/-- The polynomial of a byte string, the highest bit of the first byte its constant term. -/
noncomputable def terms : Octets → (ZMod 2)[X]
  | [] => 0
  | b :: bs => bits b.toNat 8 + X ^ 8 * terms bs

theorem terms_replicate_zero : ∀ n, terms (List.replicate n 0) = 0
  | 0 => rfl
  | n + 1 => by
    rw [List.replicate_succ, terms, terms_replicate_zero n, UInt8.toNat_zero, bits_zero, mul_zero,
      add_zero]

theorem terms_append_zeros (n : Nat) : ∀ bs, terms (bs ++ List.replicate n 0) = terms bs
  | [] => terms_replicate_zero n
  | b :: bs => by
    rw [List.cons_append, terms, terms_append_zeros n bs, terms]

theorem bits_two_pow {i count : Nat} (h : i < count) :
    bits (2 ^ i) count = X ^ (count - 1 - i) := by
  obtain ⟨k, rfl⟩ : ∃ k, count = k + 1 + i := ⟨count - 1 - i, by omega⟩
  have hone : bits 1 (k + 1) = X ^ k := by
    have hlast : bits 1 1 = 1 := by
      simp [bits]
    have h := bits_append 0 (r := 1) (k := 1) (by norm_num) k
    rw [mul_zero, zero_add, bits_zero, zero_add, hlast, mul_one] at h
    exact h
  have h := bits_append 1 (Nat.two_pow_pos i) (k + 1)
  rw [mul_one, add_zero, bits_zero, mul_zero, add_zero, hone] at h
  rw [h]
  congr 1
  omega

/-- A flipped bit adds one power of X. -/
theorem terms_flipBit : ∀ (bs : Octets) (i : Nat), i < 8 * bs.length →
    ∃ j, terms (bs.flipBit i) = terms bs + X ^ j
  | b :: bs, i, hi => by
    rcases Nat.lt_or_ge i 8 with hlow | hhigh
    · have hbit : (UInt8.ofNat (2 ^ i)).toNat = 2 ^ i :=
        UInt8.toNat_ofNat_of_lt' (Nat.pow_lt_pow_right (by omega) hlow)
      refine ⟨8 - 1 - i, ?_⟩
      rw [Octets.flipBit_cons_of_lt _ _ hlow, terms, terms, UInt8.toNat_xor, bits_xor, hbit,
        bits_two_pow hlow]
      ring
    · obtain ⟨i, rfl⟩ := Nat.exists_eq_add_of_le' hhigh
      rw [List.length_cons] at hi
      obtain ⟨j, hj⟩ := terms_flipBit bs i (by omega)
      refine ⟨8 + j, ?_⟩
      rw [Octets.flipBit_cons_add, terms, terms, hj]
      ring

/-- The number whose digits to the base 256 are those of `n` and then the bytes. -/
def number (n : Nat) (bs : Octets) : Nat := bs.foldl (fun n b => n * 256 + b.toNat) n

theorem number_cons (n : Nat) (b : UInt8) (bs : Octets) :
    number n (b :: bs) = number (n * 256 + b.toNat) bs := rfl

theorem element_eq (bs : Octets) :
    element bs = BitVec.ofNat 128 (number 0 (bs ++ List.replicate (16 - bs.length) 0)) := rfl

theorem bits_number : ∀ (bs : Octets) (n m : Nat),
    bits (number n bs) (m + 8 * bs.length) = bits n m + X ^ m * terms bs
  | [], n, m => by
    rw [terms, mul_zero, add_zero]
    rfl
  | b :: bs, n, m => by
    have hbyte : bits (n * 256 + b.toNat) (m + 8) = bits n m + X ^ m * bits b.toNat 8 := by
      rw [mul_comm]
      exact bits_append n b.toNat_lt m
    have hlen : m + 8 * (b :: bs).length = m + 8 + 8 * bs.length := by
      rw [List.length_cons]
      omega
    rw [number_cons, hlen, bits_number bs _ (m + 8), hbyte, terms]
    ring

theorem residue_element {bs : Octets} (h : bs.length ≤ 16) :
    residue (element bs) = AdjoinRoot.mk modulus (terms bs) := by
  have hlen : 0 + 8 * (bs ++ List.replicate (16 - bs.length) 0).length = 128 := by
    rw [List.length_append, List.length_replicate]
    omega
  have hbits := bits_number (bs ++ List.replicate (16 - bs.length) 0) 0 0
  rw [hlen, bits, pow_zero, one_mul, zero_add, terms_append_zeros] at hbits
  rw [residue, element_eq, BitVec.toNat_ofNat, ← hbits]
  refine congrArg _ (bits_congr fun i hi => ?_)
  rw [Nat.testBit_mod_two_pow, decide_eq_true hi, Bool.true_and]

/-- What one flipped bit adds to an element. -/
theorem residue_element_flipBit {bs : Octets} {i : Nat} (h : bs.length ≤ 16)
    (hi : i < 8 * bs.length) :
    ∃ j, residue (element (bs.flipBit i)) =
      residue (element bs) + AdjoinRoot.root modulus ^ j := by
  obtain ⟨j, hj⟩ := terms_flipBit bs i hi
  refine ⟨j, ?_⟩
  rw [residue_element h, residue_element (by rwa [Octets.length_flipBit]), hj, map_add, map_pow,
    AdjoinRoot.mk_X]

/-! ## The hash -/

section Hash

variable (h : Element)

theorem residue_mul_xor (z b : Element) :
    residue (mul (z ^^^ b) h) = (residue z + residue b) * residue h := by
  rw [residue_mul, residue_xor]

/-- Horner's scheme from `z` on. -/
def absorb (z : Element) (blocks : List Element) : Element :=
  blocks.foldl (fun z b => mul (z ^^^ b) h) z

theorem absorb_cons (z b : Element) (blocks : List Element) :
    absorb h z (b :: blocks) = absorb h (mul (z ^^^ b) h) blocks := rfl

theorem hash_eq (c : Octets) :
    hash h c = absorb h 0#128 ((Octets.pieces 16 ((c.length + 15) / 16) c).map element ++
      [BitVec.ofNat 128 (8 * c.length)]) := rfl

/-- A difference runs through the blocks that follow as a multiple of a power of the subkey. -/
theorem residue_absorb_of_add {δ : Residue} (blocks : List Element) {z z' : Element}
    (hz : residue z' = residue z + δ) :
    residue (absorb h z' blocks) =
      residue (absorb h z blocks) + δ * residue h ^ blocks.length := by
  induction blocks generalizing z z' δ with
  | nil =>
    rw [List.length_nil, pow_zero, mul_one]
    exact hz
  | cons b blocks ih =>
    have hstep : residue (mul (z' ^^^ b) h) = residue (mul (z ^^^ b) h) + δ * residue h := by
      rw [residue_mul_xor, residue_mul_xor, hz]
      ring
    rw [absorb_cons, absorb_cons, ih hstep, List.length_cons, pow_succ']
    ring

/-- One flipped bit is in one piece of the ciphertext, and the others are as they were. -/
theorem residue_absorb_pieces_flipBit (last : List Element) : ∀ (count : Nat) (c : Octets)
    (i : Nat) (z : Element), c.length ≤ 16 * count → i < 8 * c.length →
      ∃ j k, residue (absorb h z ((Octets.pieces 16 count (c.flipBit i)).map element ++ last)) =
        residue (absorb h z ((Octets.pieces 16 count c).map element ++ last)) +
          AdjoinRoot.root modulus ^ j * residue h ^ k
  | 0, c, i, z, hc, hi => by
    omega
  | count + 1, c, i, z, hc, hi => by
    rw [Octets.pieces, Octets.pieces, Octets.take_flipBit, List.map_cons, List.map_cons,
      List.cons_append, List.cons_append, absorb_cons, absorb_cons]
    have htake : (c.take 16).length ≤ 16 := List.length_take_le 16 c
    rcases Nat.lt_or_ge i (8 * 16) with hlow | hhigh
    · have hi' : i < 8 * (c.take 16).length := by
        rw [List.length_take]
        omega
      obtain ⟨j, hj⟩ := residue_element_flipBit htake hi'
      have hstep : residue (mul (z ^^^ element (Octets.flipBit (c.take 16) i)) h) =
          residue (mul (z ^^^ element (c.take 16)) h) +
            AdjoinRoot.root modulus ^ j * residue h := by
        rw [residue_mul_xor, residue_mul_xor, hj]
        ring
      refine ⟨j, ((Octets.pieces 16 count (c.drop 16)).map element ++ last).length + 1, ?_⟩
      rw [Octets.drop_flipBit_of_lt _ hlow, residue_absorb_of_add h _ hstep, mul_assoc,
        ← pow_succ']
    · obtain ⟨i, rfl⟩ := Nat.exists_eq_add_of_le hhigh
      have hdrop : (c.drop 16).length ≤ 16 * count := by
        rw [List.length_drop]
        omega
      have hi' : i < 8 * (c.drop 16).length := by
        rw [List.length_drop]
        omega
      rw [Octets.flipBit_of_length_le (by omega), Octets.drop_flipBit_add]
      exact residue_absorb_pieces_flipBit last count _ i _ hdrop hi'

theorem residue_hash_flipBit {c : Octets} {i : Nat} (hi : i < 8 * c.length) :
    ∃ j k, residue (hash h (c.flipBit i)) =
      residue (hash h c) + AdjoinRoot.root modulus ^ j * residue h ^ k := by
  rw [hash_eq, hash_eq, Octets.length_flipBit]
  exact residue_absorb_pieces_flipBit h _ _ c i _ (by omega) hi

theorem hash_zero (c : Octets) : hash 0#128 c = 0#128 := by
  rw [hash_eq, absorb, List.foldl_concat, ← residue_eq_zero_iff, residue_mul, residue_zero,
    mul_zero]

/-- Under a subkey other than zero, one flipped bit always changes the hash. -/
theorem hash_flipBit_ne {h : Element} (hh : h ≠ 0#128) {c : Octets} {i : Nat}
    (hi : i < 8 * c.length) : hash h (c.flipBit i) ≠ hash h c := by
  intro heq
  obtain ⟨j, k, hjk⟩ := residue_hash_flipBit h hi
  rw [heq, left_eq_add] at hjk
  exact root_pow_mul_residue_pow_ne_zero hh j k hjk

end Hash

/-! ## Tags -/

theorem length_elementOctets (e : Element) (b : Block 16) :
    (elementOctets e).length = b.octets.length := by
  rw [elementOctets, List.length_reverse, Octets.length_digits, b.length_octets]

theorem elementOctets_injective : Function.Injective elementOctets := by
  intro x y h
  rw [elementOctets, elementOctets, List.reverse_inj, Octets.digits_inj_iff] at h
  have hx := x.isLt
  have hy := y.isLt
  exact BitVec.eq_of_toNat_eq (by omega)

theorem number_lt : ∀ (n : Nat) (bs : Octets), number n bs < (n + 1) * 256 ^ bs.length
  | n, [] => by
    rw [List.length_nil, pow_zero, mul_one]
    exact n.lt_succ_self
  | n, b :: bs => by
    have hb := b.toNat_lt
    calc number n (b :: bs)
        < (n * 256 + b.toNat + 1) * 256 ^ bs.length := number_lt _ bs
      _ ≤ ((n + 1) * 256) * 256 ^ bs.length := Nat.mul_le_mul_right _ (by omega)
      _ = (n + 1) * 256 ^ (b :: bs).length := by rw [List.length_cons, pow_succ', mul_assoc]

theorem eq_zero_of_number_eq_zero : ∀ {n : Nat} {bs : Octets},
    number n bs = 0 → n = 0 ∧ ∀ b ∈ bs, b = 0
  | n, [], h => ⟨h, by simp⟩
  | n, b :: bs, h => by
    rw [number_cons] at h
    obtain ⟨hsum, hbs⟩ := eq_zero_of_number_eq_zero h
    obtain ⟨hn, hb⟩ := Nat.add_eq_zero_iff.1 hsum
    refine ⟨by omega, ?_⟩
    rw [List.forall_mem_cons]
    exact ⟨UInt8.toNat_inj.1 hb, hbs⟩

theorem eq_zeros_of_element_eq_zero {b : Block 16} (h : element b.octets = 0#128) :
    b = Block.zeros 16 := by
  have hlt : number 0 b.octets < 2 ^ 128 := by
    have := number_lt 0 b.octets
    rwa [b.length_octets] at this
  have hzero : number 0 b.octets = 0 := by
    have := congrArg BitVec.toNat h
    rw [element_eq, b.length_octets, Nat.sub_self, List.replicate_zero, List.append_nil,
      BitVec.toNat_ofNat, BitVec.toNat_ofNat, Nat.zero_mod] at this
    rwa [Nat.mod_eq_of_lt hlt] at this
  refine Block.ext (List.eq_replicate_iff.2 ⟨b.length_octets, ?_⟩)
  exact (eq_zero_of_number_eq_zero hzero).2

theorem counterBlock_injective (i : Nat) : Function.Injective (counterBlock · i) := by
  intro n n' h
  have hoctets := congrArg Block.octets h
  exact Block.ext (List.append_cancel_right hoctets)

/-- The subkey that hashes are taken under. -/
def subkey (key : Block 32) : Element := element (Aes256.encrypt key (Block.zeros 16)).octets

variable (key : Block 32)

theorem tag_octets (nonce : Block 12) (c : Octets) :
    (tag key nonce c).octets =
      Octets.xor (elementOctets (hash (subkey key) c))
        (Aes256.encrypt key (counterBlock nonce 1)).octets := rfl

/-- Under one nonce, ciphertexts have one tag only if they have one hash. -/
theorem tag_eq_tag_iff {nonce : Block 12} {c c' : Octets} :
    tag key nonce c = tag key nonce c' ↔ hash (subkey key) c = hash (subkey key) c' := by
  refine ⟨fun h => ?_, fun h => ?_⟩
  · have hoctets := congrArg Block.octets h
    rw [tag_octets, tag_octets] at hoctets
    exact elementOctets_injective
      (Octets.xor_right_cancel (length_elementOctets _ _) (length_elementOctets _ _) hoctets)
  · refine Block.ext ?_
    rw [tag_octets, tag_octets, h]

/-- Whatever the ciphertext, different nonces have different tags. -/
theorem tag_injective_nonce (c : Octets) : Function.Injective (tag key · c) := by
  intro n n' h
  have hoctets := congrArg Block.octets h
  rw [tag_octets, tag_octets, Octets.xor_comm, Octets.xor_comm (elementOctets _)] at hoctets
  have hmask := Octets.xor_right_cancel (length_elementOctets _ _).symm
    (length_elementOctets _ _).symm hoctets
  exact counterBlock_injective 1 (Aes256.encrypt_injective key (Block.ext hmask))

/-- If the subkey is zero, there is only one tag under each nonce. -/
theorem tag_eq_of_encrypt_zeros (h : Aes256.encrypt key (Block.zeros 16) = Block.zeros 16)
    (nonce : Block 12) (c c' : Octets) : tag key nonce c = tag key nonce c' := by
  have hsubkey : subkey key = 0#128 := by
    rw [subkey, h]
    rfl
  rw [tag_eq_tag_iff, hsubkey, hash_zero, hash_zero]

/-- Under a subkey other than zero, one flipped bit always changes the tag. -/
theorem tag_flipBit_ne (h : Aes256.encrypt key (Block.zeros 16) ≠ Block.zeros 16)
    (nonce : Block 12) {c : Octets} {i : Nat} (hi : i < 8 * c.length) :
    tag key nonce (c.flipBit i) ≠ tag key nonce c := by
  intro htag
  refine hash_flipBit_ne (h := subkey key) ?_ hi ((tag_eq_tag_iff key).1 htag)
  exact fun h0 => h (eq_zeros_of_element_eq_zero h0)

end Crypto.Gcm

end DeviceAuth
