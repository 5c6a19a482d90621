import Mathlib.Tactic.Common
import DeviceAuth.Octets

/-!
# Texts and their bytes

The bytes of a text are those of its characters one after another (`ofString_ofList`), and bytes are
the one text that has them (`text?_eq_some_iff`). A character of ASCII is one byte, and every byte
of any other character lies beyond ASCII.
-/

namespace DeviceAuth.Octets

/-- The UTF-8 bytes of characters. -/
def ofChars (cs : List Char) : Octets := cs.flatMap String.utf8EncodeChar

@[simp] theorem ofChars_nil : ofChars [] = [] := rfl

@[simp] theorem ofChars_cons (c : Char) (cs : List Char) :
    ofChars (c :: cs) = String.utf8EncodeChar c ++ ofChars cs := rfl

@[simp] theorem ofChars_append (cs ds : List Char) :
    ofChars (cs ++ ds) = ofChars cs ++ ofChars ds := by
  simp [ofChars]

theorem ofString_ofList (cs : List Char) : ofString (String.ofList cs) = ofChars cs := by
  rw [ofString, String.toUTF8_eq_toByteArray, String.toByteArray_ofList, List.utf8Encode,
    List.data_toByteArray]
  rfl

theorem ofString_eq_ofChars (s : String) : ofString s = ofChars s.toList := by
  rw [← ofString_ofList, String.ofList_toList]

theorem text?_ofString (s : String) : text? (ofString s) = some s := by
  rw [text?, String.fromUTF8?]
  exact dif_pos s.isValidUTF8

theorem text?_eq_some_iff {bs : Octets} {s : String} : text? bs = some s ↔ bs = ofString s := by
  refine ⟨?_, ?_⟩
  · intro h
    rw [text?, String.fromUTF8?] at h
    split_ifs at h
    obtain rfl := Option.some.inj h
    simp [ofString, String.fromUTF8]
  · rintro rfl
    exact text?_ofString s

theorem ofString_injective : Function.Injective ofString := by
  intro s t h
  have := text?_eq_some_iff.2 h
  rw [text?_ofString] at this
  exact Option.some.inj this

/-! ## One character -/

theorem utf8EncodeChar_of_lt {c : Char} (h : c.toNat < 128) :
    String.utf8EncodeChar c = [UInt8.ofNat c.toNat] := by
  have hv : c.val.toNat ≤ 0x7f := by
    simp only [Char.toNat] at h
    omega
  simp only [String.utf8EncodeChar, if_pos hv]
  rfl

/-- No byte of a character beyond ASCII could be taken for one of ASCII. -/
theorem le_of_mem_utf8EncodeChar {c : Char} (h : 128 ≤ c.toNat) {b : UInt8}
    (hb : b ∈ String.utf8EncodeChar c) : 128 ≤ b.toNat := by
  have hv : ¬ c.val.toNat ≤ 0x7f := by
    simp only [Char.toNat] at h
    omega
  simp only [String.utf8EncodeChar, if_neg hv] at hb
  split_ifs at hb <;> simp only [List.mem_cons, List.not_mem_nil, or_false] at hb <;>
    rcases hb with rfl | rfl | rfl | rfl <;> simp only [UInt8.toNat_ofNat'] <;> omega

theorem toNat_ofUInt8 (b : UInt8) : (Char.ofUInt8 b).toNat = b.toNat := UInt8.toNat_toUInt32 b

theorem ofUInt8_ofNat {c : Char} (h : c.toNat < 256) : Char.ofUInt8 (UInt8.ofNat c.toNat) = c := by
  apply Char.toNat_inj.1
  rw [toNat_ofUInt8, UInt8.toNat_ofNat']
  exact Nat.mod_eq_of_lt h

theorem ofChars_map_ofUInt8 : ∀ {bs : Octets}, (∀ b ∈ bs, b.toNat < 128) →
    ofChars (bs.map Char.ofUInt8) = bs
  | [], _ => rfl
  | b :: bs, h => by
    have hb : (Char.ofUInt8 b).toNat < 128 := by
      rw [toNat_ofUInt8]
      exact h b List.mem_cons_self
    rw [List.map_cons, ofChars_cons, utf8EncodeChar_of_lt hb, toNat_ofUInt8,
      ofChars_map_ofUInt8 fun b hb => h b (List.mem_cons_of_mem _ hb)]
    simp

theorem map_ofUInt8_ofChars : ∀ {cs : List Char}, (∀ c ∈ cs, c.toNat < 128) →
    (ofChars cs).map Char.ofUInt8 = cs
  | [], _ => rfl
  | c :: cs, h => by
    have hc := h c List.mem_cons_self
    rw [ofChars_cons, utf8EncodeChar_of_lt hc, List.map_append,
      map_ofUInt8_ofChars fun c hc => h c (List.mem_cons_of_mem _ hc), List.map_cons,
      ofUInt8_ofNat (by omega)]
    rfl

end DeviceAuth.Octets
