import Mathlib.Tactic.Common
import DeviceAuth.Proofs.Utf8
import DeviceAuth.Request.Headers

/-!
# Reading headers

A header value is the bytes of a printable text or no text at all (`text?_eq_some_iff`). A value
that was put in place of others is the only one of its name, and the values of other names stay.
-/

namespace DeviceAuth.Headers

/-- Only printable ASCII and tabs occur in the text. -/
def Printable (s : String) : Prop :=
  ∀ c ∈ s.toList, c = '\t' ∨ 0x20 ≤ c.toNat ∧ c.toNat ≤ 0x7e

instance (s : String) : Decidable (Printable s) :=
  List.decidableBAll _ s.toList

theorem Printable.append {s t : String} (hs : Printable s) (ht : Printable t) :
    Printable (s ++ t) := by
  intro c hc
  rw [String.toList_append, List.mem_append] at hc
  exact hc.elim (hs c) (ht c)

/-- The bytes allowed in a text are the printable characters. -/
theorem allowed_iff (b : UInt8) :
    (b = 0x09 || (0x20 ≤ b && b ≤ 0x7e)) = true ↔
      Char.ofUInt8 b = '\t' ∨ 0x20 ≤ (Char.ofUInt8 b).toNat ∧ (Char.ofUInt8 b).toNat ≤ 0x7e := by
  have ht : Char.ofUInt8 b = '\t' ↔ b = 0x09 := by
    refine ⟨fun h => ?_, fun h => h ▸ rfl⟩
    have := congrArg Char.toNat h
    rw [Octets.toNat_ofUInt8] at this
    exact UInt8.toNat_inj.1 this
  rw [ht, Octets.toNat_ofUInt8]
  simp [UInt8.le_iff_toNat_le]

theorem text?_ofString {s : String} (hs : Printable s) : text? (Octets.ofString s) = some s := by
  have hlt : ∀ c ∈ s.toList, c.toNat < 128 := by
    intro c hc
    rcases hs c hc with rfl | ⟨-, h⟩
    · decide
    · omega
  have hmap : (Octets.ofString s).map Char.ofUInt8 = s.toList := by
    rw [Octets.ofString_eq_ofChars]
    exact Octets.map_ofUInt8_ofChars hlt
  have hall : (Octets.ofString s).all (fun b => b = 0x09 || (0x20 ≤ b && b ≤ 0x7e)) = true := by
    rw [List.all_eq_true]
    intro b hb
    rw [allowed_iff]
    exact hs _ (hmap ▸ List.mem_map_of_mem hb)
  rw [text?, if_pos hall, hmap, String.ofList_toList]

theorem text?_eq_some_iff {value : Octets} {s : String} :
    text? value = some s ↔ value = Octets.ofString s ∧ Printable s := by
  refine ⟨?_, ?_⟩
  · intro h
    rw [text?] at h
    split_ifs at h with hall
    obtain rfl := Option.some.inj h
    rw [List.all_eq_true] at hall
    refine ⟨?_, ?_⟩
    · rw [Octets.ofString_ofList, Octets.ofChars_map_ofUInt8]
      intro b hb
      have := (allowed_iff b).1 (hall b hb)
      rw [← Octets.toNat_ofUInt8]
      rcases this with h | h
      · rw [h]
        decide
      · omega
    · intro c hc
      rw [String.toList_ofList, List.mem_map] at hc
      obtain ⟨b, hb, rfl⟩ := hc
      exact (allowed_iff b).1 (hall b hb)
  · rintro ⟨rfl, hs⟩
    exact text?_ofString hs

theorem first?_eq_some_iff {h : Headers} {name s : String} :
    h.first? name = some s ↔
      (h.values name).head? = some (Octets.ofString s) ∧ Printable s := by
  rw [first?, Option.bind_eq_bind, Option.bind_eq_some_iff]
  simp only [text?_eq_some_iff]
  exact ⟨fun ⟨_, hv, he, hs⟩ => ⟨he ▸ hv, hs⟩, fun ⟨hv, hs⟩ => ⟨_, hv, rfl, hs⟩⟩

/-! ## What putting a value in does -/

theorem values_insert (h : Headers) (name : String) (value : Octets) :
    (h.insert name value).values name = [value] := by
  have hnone : (h.remove name).filter (fun e => e.1 = canonical name) = [] := by
    rw [remove, List.filter_filter, List.filter_eq_nil_iff]
    simp
  simp [insert, append, values, List.filter_append, hnone]

theorem values_insert_of_ne {name other : String} (hne : canonical other ≠ canonical name)
    (h : Headers) (value : Octets) : (h.insert name value).values other = h.values other := by
  have hkeep : (h.remove name).filter (fun e => e.1 = canonical other)
      = h.filter fun e => e.1 = canonical other := by
    rw [remove, List.filter_filter]
    refine List.filter_congr fun e _ => ?_
    by_cases he : e.1 = canonical other
    · simp [he, hne]
    · simp [he]
  simp [insert, append, values, List.filter_append, hkeep, Ne.symm hne]

end DeviceAuth.Headers
