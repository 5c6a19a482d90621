import Mathlib.Algebra.GroupWithZero.Nat
import Mathlib.Data.List.Infix
import Mathlib.Tactic.Common
import DeviceAuth.Token.Framing

/-!
# Framed pieces are told apart

A list of byte strings can be told from its framed bytes, whatever comes after them
(`frame_append_inj`), so two lists have the same framed bytes only if they are equal, and the framed
bytes of one do not begin those of another (`framing_unambiguous`). That rests on the lengths: there
must be fewer than `2 ^ 63` pieces and each must be shorter than that, since larger lengths lose
their topmost bit.
-/

namespace DeviceAuth

/-- Digits tell a number up to a power of the base. -/
theorem Octets.digits_inj_iff : ∀ {count m n : Nat},
    digits count m = digits count n ↔ m % 256 ^ count = n % 256 ^ count
  | 0, m, n => by simp [digits, Nat.mod_one]
  | count + 1, m, n => by
    have hdigit : UInt8.ofNat m = UInt8.ofNat n ↔ m % 256 = n % 256 := by
      rw [← UInt8.toNat_inj, UInt8.toNat_ofNat', UInt8.toNat_ofNat']
    rw [digits, digits, List.cons.injEq, hdigit, digits_inj_iff, pow_succ', Nat.mod_mul,
      Nat.mod_mul]
    omega

namespace Token

@[simp] theorem length_lengthOctets (n : Nat) : (lengthOctets n).length = 8 := by
  simp [lengthOctets]

/-- Two lengths look the same if and only if they differ by the topmost bit at most. -/
theorem lengthOctets_inj_iff {m n : Nat} :
    lengthOctets m = lengthOctets n ↔ m % 2 ^ 63 = n % 2 ^ 63 := by
  rw [lengthOctets, lengthOctets, Octets.digits_inj_iff]
  omega

/-- There are few enough pieces, and each is short enough, for their lengths to be told. -/
structure Framable (pieces : List Octets) : Prop where
  count : pieces.length < 2 ^ 63
  sizes : ∀ p ∈ pieces, p.length < 2 ^ 63

/-- The pieces, each after its length. -/
def sized (pieces : List Octets) : Octets := pieces.flatMap fun p => lengthOctets p.length ++ p

theorem frame_eq (pieces : List Octets) :
    frame pieces = lengthOctets pieces.length ++ sized pieces := rfl

theorem sized_cons (p : Octets) (ps : List Octets) :
    sized (p :: ps) = lengthOctets p.length ++ (p ++ sized ps) := by
  simp [sized]

theorem sized_append_inj : ∀ {ps qs : List Octets} {r r' : Octets}, ps.length = qs.length →
    (∀ p ∈ ps, p.length < 2 ^ 63) → (∀ q ∈ qs, q.length < 2 ^ 63) →
    sized ps ++ r = sized qs ++ r' → ps = qs ∧ r = r'
  | [], [], _, _, _, _, _, h => ⟨rfl, h⟩
  | p :: ps, q :: qs, r, r', hcount, hp, hq, h => by
    simp only [sized_cons, List.append_assoc] at h
    obtain ⟨hlength, h⟩ := List.append_inj h (by simp)
    have hsize : p.length = q.length := by
      have hp' := hp p List.mem_cons_self
      have hq' := hq q List.mem_cons_self
      rw [lengthOctets_inj_iff] at hlength
      omega
    obtain ⟨rfl, hrest⟩ := List.append_inj h hsize
    obtain ⟨rfl, rfl⟩ := sized_append_inj (by simpa using hcount)
      (fun p' hm => hp p' (List.mem_cons_of_mem _ hm))
      (fun q' hm => hq q' (List.mem_cons_of_mem _ hm)) hrest
    exact ⟨rfl, rfl⟩

variable {ps qs : List Octets}

/-- Framed bytes end where their last piece ends. -/
theorem frame_append_inj (hp : Framable ps) (hq : Framable qs) {r r' : Octets} :
    frame ps ++ r = frame qs ++ r' ↔ ps = qs ∧ r = r' := by
  refine ⟨fun h => ?_, ?_⟩
  · rw [frame_eq, frame_eq, List.append_assoc, List.append_assoc] at h
    obtain ⟨hlength, h⟩ := List.append_inj h (by simp)
    have hcount : ps.length = qs.length := by
      have hp' := hp.count
      have hq' := hq.count
      rw [lengthOctets_inj_iff] at hlength
      omega
    exact sized_append_inj hcount hp.sizes hq.sizes h
  · rintro ⟨rfl, rfl⟩
    rfl

theorem frame_isPrefix_iff (hp : Framable ps) (hq : Framable qs) :
    frame ps <+: frame qs ↔ ps = qs := by
  refine ⟨fun ⟨r, h⟩ => ?_, fun h => h ▸ List.prefix_rfl⟩
  rw [← List.append_nil (frame qs)] at h
  exact ((frame_append_inj hp hq).1 h).1

/-- Two lists of pieces have the same framed bytes if and only if they are equal. The framed bytes
of different lists are not even the beginning of each other. -/
theorem framing_unambiguous (hp : Framable ps) (hq : Framable qs) :
    (frame ps = frame qs ↔ ps = qs)
      ∧ (ps ≠ qs → ¬ frame ps <+: frame qs ∧ ¬ frame qs <+: frame ps) := by
  refine ⟨⟨fun h => ?_, fun h => h ▸ rfl⟩, fun hne => ⟨?_, ?_⟩⟩
  · exact (frame_isPrefix_iff hp hq).1 (h ▸ List.prefix_rfl)
  · exact mt (frame_isPrefix_iff hp hq).1 hne
  · exact mt (frame_isPrefix_iff hq hp).1 hne.symm

/-- One piece that looks like two lengths is not taken for two empty pieces. -/
theorem framing_unambiguous_for_nested_lengths :
    let ps : List Octets := [lengthOctets 0 ++ lengthOctets 0]
    let qs : List Octets := [[], []]
    Framable ps ∧ Framable qs ∧ frame ps ≠ frame qs ∧ ¬ frame qs <+: frame ps := by
  intro ps qs
  have hp : Framable ps := ⟨by decide, by decide⟩
  have hq : Framable qs := ⟨by decide, by decide⟩
  obtain ⟨heq, hne⟩ := framing_unambiguous hp hq
  exact ⟨hp, hq, mt heq.1 (by decide), (hne (by decide)).2⟩

end Token

end DeviceAuth
