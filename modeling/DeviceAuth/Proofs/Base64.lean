import DeviceAuth.Text.Base64
import Mathlib.Tactic.Common

/-!
# Base64 texts and the bytes they stand for

An alphabet is lawful if each of its 64 characters stands for its own number and `=` for none. In a
lawful alphabet reading accepts exactly what writing produces (`decode?_eq_some_iff`), so bytes have
one text and a text stands for one byte string.
-/

namespace DeviceAuth.Base64.Alphabet

/-- Each character stands for the number it is written for, and `=` stands for none. -/
structure Lawful (α : Alphabet) : Prop where
  value?_digit : ∀ n < 64, α.value? (α.digit n) = some n
  value?_equals : α.value? '=' = none

theorem lawful_standard : standard.Lawful := ⟨by decide, by decide⟩

theorem lawful_url : url.Lawful := ⟨by decide, by decide⟩

variable {α : Alphabet}

/-- A character that stands for a number is the one that is written for it. -/
theorem digit_of_value? {c : Char} {n : Nat} (h : α.value? c = some n) :
    n < 64 ∧ α.digit n = c := by
  unfold value? at h
  unfold digit
  split_ifs at h with h1 h2 h3 h4 h5 <;> simp only [Option.some.injEq] at h
  · have hlo : 65 ≤ c.toNat := h1.1
    have hhi : c.toNat ≤ 90 := h1.2
    rw [if_pos (by omega)]
    exact ⟨by omega, by rw [show n + 65 = c.toNat by omega, Char.ofNat_toNat]⟩
  · have hlo : 97 ≤ c.toNat := h2.1
    have hhi : c.toNat ≤ 122 := h2.2
    rw [if_neg (by omega), if_pos (by omega)]
    exact ⟨by omega, by rw [show n + 71 = c.toNat by omega, Char.ofNat_toNat]⟩
  · have hlo : 48 ≤ c.toNat := h3.1
    have hhi : c.toNat ≤ 57 := h3.2
    rw [if_neg (by omega), if_neg (by omega), if_pos (by omega)]
    exact ⟨by omega, by rw [show n - 4 = c.toNat by omega, Char.ofNat_toNat]⟩
  · subst h
    simp [h4]
  · subst h
    simp [h5]

theorem digit_ne_equals (hα : α.Lawful) {n : Nat} (hn : n < 64) : α.digit n ≠ '=' := by
  intro h
  have := hα.value?_digit n hn
  rw [h, hα.value?_equals] at this
  simp at this

theorem decodeOne?_eq_some_iff (hα : α.Lawful) {p q : Char} {bs : Octets} :
    α.decodeOne? p q = some bs ↔
      ∃ a, bs = [a] ∧ p = α.digit (a.toNat / 4) ∧ q = α.digit (a.toNat % 4 * 16) := by
  refine ⟨?_, ?_⟩
  · intro h
    simp only [decodeOne?, Option.bind_eq_bind, Option.bind_eq_some_iff] at h
    obtain ⟨x, hx, y, hy, h⟩ := h
    split_ifs at h with hs
    obtain ⟨hx64, hp⟩ := digit_of_value? hx
    obtain ⟨hy64, hq⟩ := digit_of_value? hy
    have ha : (UInt8.ofNat (x * 4 + y / 16)).toNat = x * 4 + y / 16 :=
      Nat.mod_eq_of_lt (by omega)
    refine ⟨UInt8.ofNat (x * 4 + y / 16), (Option.some.inj h).symm, ?_, ?_⟩
    · rw [ha, show (x * 4 + y / 16) / 4 = x by omega, hp]
    · rw [ha, show (x * 4 + y / 16) % 4 * 16 = y by omega, hq]
  · rintro ⟨a, rfl, rfl, rfl⟩
    have ha := a.toNat_lt
    simp only [decodeOne?, hα.value?_digit _ (show a.toNat / 4 < 64 by omega),
      hα.value?_digit _ (show a.toNat % 4 * 16 < 64 by omega), Option.bind_eq_bind,
      Option.bind_some]
    rw [if_pos (by omega), show a.toNat / 4 * 4 + a.toNat % 4 * 16 / 16 = a.toNat by omega,
      UInt8.ofNat_toNat]

theorem decodeTwo?_eq_some_iff (hα : α.Lawful) {p q r : Char} {bs : Octets} :
    α.decodeTwo? p q r = some bs ↔
      ∃ a b, bs = [a, b] ∧ p = α.digit (a.toNat / 4)
        ∧ q = α.digit (a.toNat % 4 * 16 + b.toNat / 16) ∧ r = α.digit (b.toNat % 16 * 4) := by
  refine ⟨?_, ?_⟩
  · intro h
    simp only [decodeTwo?, Option.bind_eq_bind, Option.bind_eq_some_iff] at h
    obtain ⟨x, hx, y, hy, z, hz, h⟩ := h
    split_ifs at h with hs
    obtain ⟨hx64, hp⟩ := digit_of_value? hx
    obtain ⟨hy64, hq⟩ := digit_of_value? hy
    obtain ⟨hz64, hr⟩ := digit_of_value? hz
    have ha : (UInt8.ofNat (x * 4 + y / 16)).toNat = x * 4 + y / 16 :=
      Nat.mod_eq_of_lt (by omega)
    have hb : (UInt8.ofNat (y % 16 * 16 + z / 4)).toNat = y % 16 * 16 + z / 4 :=
      Nat.mod_eq_of_lt (by omega)
    refine ⟨_, _, (Option.some.inj h).symm, ?_, ?_, ?_⟩
    · rw [ha, show (x * 4 + y / 16) / 4 = x by omega, hp]
    · rw [ha, hb, show (x * 4 + y / 16) % 4 * 16 + (y % 16 * 16 + z / 4) / 16 = y by omega, hq]
    · rw [hb, show (y % 16 * 16 + z / 4) % 16 * 4 = z by omega, hr]
  · rintro ⟨a, b, rfl, rfl, rfl, rfl⟩
    have ha := a.toNat_lt
    have hb := b.toNat_lt
    simp only [decodeTwo?, hα.value?_digit _ (show a.toNat / 4 < 64 by omega),
      hα.value?_digit _ (show a.toNat % 4 * 16 + b.toNat / 16 < 64 by omega),
      hα.value?_digit _ (show b.toNat % 16 * 4 < 64 by omega), Option.bind_eq_bind,
      Option.bind_some]
    rw [if_pos (by omega),
      show a.toNat / 4 * 4 + (a.toNat % 4 * 16 + b.toNat / 16) / 16 = a.toNat by omega,
      show (a.toNat % 4 * 16 + b.toNat / 16) % 16 * 16 + b.toNat % 16 * 4 / 4 = b.toNat by omega,
      UInt8.ofNat_toNat, UInt8.ofNat_toNat]

theorem decodeThree?_eq_some_iff (hα : α.Lawful) {p q r s : Char} {bs : Octets} :
    α.decodeThree? p q r s = some bs ↔
      ∃ a b c, bs = [a, b, c] ∧ p = α.digit (a.toNat / 4)
        ∧ q = α.digit (a.toNat % 4 * 16 + b.toNat / 16)
        ∧ r = α.digit (b.toNat % 16 * 4 + c.toNat / 64) ∧ s = α.digit (c.toNat % 64) := by
  refine ⟨?_, ?_⟩
  · intro h
    simp only [decodeThree?, Option.bind_eq_bind, Option.bind_eq_some_iff] at h
    obtain ⟨x, hx, y, hy, z, hz, w, hw, h⟩ := h
    obtain ⟨hx64, hp⟩ := digit_of_value? hx
    obtain ⟨hy64, hq⟩ := digit_of_value? hy
    obtain ⟨hz64, hr⟩ := digit_of_value? hz
    obtain ⟨hw64, hs⟩ := digit_of_value? hw
    have ha : (UInt8.ofNat (x * 4 + y / 16)).toNat = x * 4 + y / 16 :=
      Nat.mod_eq_of_lt (by omega)
    have hb : (UInt8.ofNat (y % 16 * 16 + z / 4)).toNat = y % 16 * 16 + z / 4 :=
      Nat.mod_eq_of_lt (by omega)
    have hc : (UInt8.ofNat (z % 4 * 64 + w)).toNat = z % 4 * 64 + w :=
      Nat.mod_eq_of_lt (by omega)
    refine ⟨_, _, _, (Option.some.inj h).symm, ?_, ?_, ?_, ?_⟩
    · rw [ha, show (x * 4 + y / 16) / 4 = x by omega, hp]
    · rw [ha, hb, show (x * 4 + y / 16) % 4 * 16 + (y % 16 * 16 + z / 4) / 16 = y by omega, hq]
    · rw [hb, hc, show (y % 16 * 16 + z / 4) % 16 * 4 + (z % 4 * 64 + w) / 64 = z by omega, hr]
    · rw [hc, show (z % 4 * 64 + w) % 64 = w by omega, hs]
  · rintro ⟨a, b, c, rfl, rfl, rfl, rfl, rfl⟩
    have ha := a.toNat_lt
    have hb := b.toNat_lt
    have hc := c.toNat_lt
    simp only [decodeThree?, hα.value?_digit _ (show a.toNat / 4 < 64 by omega),
      hα.value?_digit _ (show a.toNat % 4 * 16 + b.toNat / 16 < 64 by omega),
      hα.value?_digit _ (show b.toNat % 16 * 4 + c.toNat / 64 < 64 by omega),
      hα.value?_digit _ (show c.toNat % 64 < 64 by omega), Option.bind_eq_bind, Option.bind_some]
    rw [show a.toNat / 4 * 4 + (a.toNat % 4 * 16 + b.toNat / 16) / 16 = a.toNat by omega,
      show (a.toNat % 4 * 16 + b.toNat / 16) % 16 * 16
        + (b.toNat % 16 * 4 + c.toNat / 64) / 4 = b.toNat by omega,
      show (b.toNat % 16 * 4 + c.toNat / 64) % 4 * 64 + c.toNat % 64 = c.toNat by omega,
      UInt8.ofNat_toNat, UInt8.ofNat_toNat, UInt8.ofNat_toNat]

/-- What is written is read back. -/
theorem decode?_encode (hα : α.Lawful) : ∀ bs : Octets, α.decode? (α.encode bs) = some bs
  | [] => rfl
  | [a] => by
    have h := (decodeOne?_eq_some_iff hα).2 ⟨a, rfl, rfl, rfl⟩
    by_cases hp : α.padded <;> simp [encode, padding, decode?, hp, h]
  | [a, b] => by
    have h := (decodeTwo?_eq_some_iff hα).2 ⟨a, b, rfl, rfl, rfl, rfl⟩
    have hr := digit_ne_equals hα (show b.toNat % 16 * 4 < 64 by omega)
    by_cases hp : α.padded <;> simp [encode, padding, decode?, hp, hr, h]
  | a :: b :: c :: rest => by
    have h := (decodeThree?_eq_some_iff hα).2 ⟨a, b, c, rfl, rfl, rfl, rfl, rfl⟩
    have hs := digit_ne_equals hα (show c.toNat % 64 < 64 by omega)
    simp [encode, decode?, hs, h, decode?_encode hα rest]

/-- What is read is what would be written. -/
theorem encode_of_decode? (hα : α.Lawful) : ∀ {s : List Char} {bs : Octets},
    α.decode? s = some bs → s = α.encode bs
  | [], bs, h => by
    obtain rfl := Option.some.inj h
    rfl
  | [_], bs, h => by simp [decode?] at h
  | [p, q], bs, h => by
    simp only [decode?] at h
    split_ifs at h with hp
    obtain ⟨a, rfl, rfl, rfl⟩ := (decodeOne?_eq_some_iff hα).1 h
    simp [encode, padding, hp]
  | [p, q, r], bs, h => by
    simp only [decode?] at h
    split_ifs at h with hp
    obtain ⟨a, b, rfl, rfl, rfl, rfl⟩ := (decodeTwo?_eq_some_iff hα).1 h
    simp [encode, padding, hp]
  | p :: q :: r :: s :: rest, bs, h => by
    simp only [decode?] at h
    split_ifs at h with hp hr
    · obtain ⟨hp, rfl, rfl⟩ := hp
      obtain ⟨a, rfl, rfl, rfl⟩ := (decodeOne?_eq_some_iff hα).1 h
      simp [encode, padding, hp, hr, List.replicate]
    · obtain ⟨hp, rfl, rfl⟩ := hp
      obtain ⟨a, b, rfl, rfl, rfl, rfl⟩ := (decodeTwo?_eq_some_iff hα).1 h
      simp [encode, padding, hp]
    · simp only [Option.bind_eq_bind, Option.bind_eq_some_iff] at h
      obtain ⟨group, hg, more, hm, h⟩ := h
      obtain ⟨a, b, c, rfl, rfl, rfl, rfl, rfl⟩ := (decodeThree?_eq_some_iff hα).1 hg
      obtain rfl := Option.some.inj h
      rw [encode_of_decode? hα hm]
      rfl

/-- Reading accepts exactly what writing produces. -/
theorem decode?_eq_some_iff (hα : α.Lawful) {s : List Char} {bs : Octets} :
    α.decode? s = some bs ↔ s = α.encode bs :=
  ⟨encode_of_decode? hα, fun h => h ▸ decode?_encode hα bs⟩

theorem encode_injective (hα : α.Lawful) : Function.Injective α.encode := by
  intro a b h
  have := decode?_encode hα a
  rw [h, decode?_encode hα b] at this
  exact (Option.some.inj this).symm

theorem encode_eq_nil_iff {bs : Octets} : α.encode bs = [] ↔ bs = [] := by
  unfold encode
  split <;> simp

/-- A text is made of the characters for numbers, and of `=` where the alphabet pads. -/
theorem mem_encode : ∀ {bs : Octets} {c : Char}, c ∈ α.encode bs →
    (∃ n < 64, c = α.digit n) ∨ α.padded = true ∧ c = '='
  | [], c, h => by simp [encode] at h
  | [a], c, h => by
    have ha := a.toNat_lt
    simp only [encode, padding, List.cons_append, List.nil_append, List.mem_cons] at h
    rcases h with rfl | rfl | h
    · exact .inl ⟨_, by omega, rfl⟩
    · exact .inl ⟨_, by omega, rfl⟩
    · split_ifs at h with hp
      · exact .inr ⟨hp, by simpa using h⟩
      · simp at h
  | [a, b], c, h => by
    have ha := a.toNat_lt
    have hb := b.toNat_lt
    simp only [encode, padding, List.cons_append, List.nil_append, List.mem_cons] at h
    rcases h with rfl | rfl | rfl | h
    · exact .inl ⟨_, by omega, rfl⟩
    · exact .inl ⟨_, by omega, rfl⟩
    · exact .inl ⟨_, by omega, rfl⟩
    · split_ifs at h with hp
      · exact .inr ⟨hp, by simpa using h⟩
      · simp at h
  | a :: b :: c' :: rest, c, h => by
    have ha := a.toNat_lt
    have hb := b.toNat_lt
    have hc := c'.toNat_lt
    simp only [encode, List.mem_cons] at h
    rcases h with rfl | rfl | rfl | rfl | h
    · exact .inl ⟨_, by omega, rfl⟩
    · exact .inl ⟨_, by omega, rfl⟩
    · exact .inl ⟨_, by omega, rfl⟩
    · exact .inl ⟨_, by omega, rfl⟩
    · exact mem_encode h

end DeviceAuth.Base64.Alphabet
