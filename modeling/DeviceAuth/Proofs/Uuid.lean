import Mathlib.Algebra.GroupWithZero.Nat
import Mathlib.Tactic.Common
import DeviceAuth.Uuid
import DeviceAuth.Proofs.JsonText

/-!
# Reading UUIDs

What each form writes is read as the UUID that it was written for (`parse?_write`). For the
hyphenated form this needs no more than the same text up to the case of its letters: hyphens and
digits other than letters have no other case, so lowering a text neither moves its groups nor
changes what they stand for (`ungroup?_map_toLower`, `bytes?_eq_some_iff`).
-/

namespace DeviceAuth

/-! ## Letters of either case -/

theorem toNat_toLower (c : Char) :
    c.toLower.toNat = if 65 ≤ c.toNat ∧ c.toNat ≤ 90 then c.toNat + 32 else c.toNat := by
  have hbounds : (c.val ≥ 'A'.val ∧ c.val ≤ 'Z'.val) ↔ 65 ≤ c.toNat ∧ c.toNat ≤ 90 := by
    simp only [ge_iff_le, UInt32.le_iff_toNat_le]
    rfl
  unfold Char.toLower
  split_ifs with h h' h'
  · have h32 : ('a'.val - 'A'.val).toNat = 32 := rfl
    simp only [Char.toNat, UInt32.toNat_add, h32] at h' ⊢
    omega
  · exact absurd (hbounds.1 h) h'
  · exact absurd (hbounds.2 h') h
  · rfl

/-- Only letters have another case. -/
theorem toLower_eq_iff_of_lt {c d : Char} (hd : d.toNat < 65) : c.toLower = d ↔ c = d := by
  rw [← Char.toNat_inj, ← Char.toNat_inj, toNat_toLower]
  split_ifs <;> omega

theorem toList_toLower (s : String) : s.toLower.toList = s.toList.map Char.toLower :=
  String.toList_map

theorem toLower_eq_toLower_iff {s t : String} : s.toLower = t.toLower
    ↔ s.toList.map Char.toLower = t.toList.map Char.toLower := by
  rw [← String.toList_inj, toList_toLower, toList_toLower]

namespace Hex

theorem toNat_digit : ∀ n < 16, (digit n).toNat = if n < 10 then n + 48 else n + 87 := by
  decide

theorem value?_eq_some_iff {c : Char} {n : Nat} :
    value? c = some n ↔ n < 16 ∧ c.toLower = digit n := by
  have hle : ∀ a b : Char, a ≤ b ↔ a.toNat ≤ b.toNat := fun a b => by
    rw [Char.le_def, UInt32.le_iff_toNat_le]
    rfl
  have hlower : n < 16 → (c.toLower = digit n
      ↔ (if 65 ≤ c.toNat ∧ c.toNat ≤ 90 then c.toNat + 32 else c.toNat)
        = if n < 10 then n + 48 else n + 87) := fun hn => by
    rw [← Char.toNat_inj, toNat_toLower, toNat_digit n hn]
  simp only [value?, hle, Char.reduceToNat, ite_eq_iff, Option.some.injEq, reduceCtorEq, and_false,
    or_false]
  refine ⟨fun h => ?_, fun ⟨hn, h⟩ => ?_⟩
  · have hn : n < 16 := by omega
    refine ⟨hn, (hlower hn).2 ?_⟩
    split_ifs <;> omega
  · rw [hlower hn] at h
    split_ifs at h <;> omega

theorem isDigit_iff {c : Char} : isDigit c = true ↔ ∃ n < 16, c.toLower = digit n := by
  simp only [isDigit, Option.isSome_iff_exists, value?_eq_some_iff]

theorem digit_inj {m n : Nat} (hm : m < 16) (hn : n < 16) (h : digit m = digit n) : m = n := by
  have := Json.value?_digit m hm
  rw [h, Json.value?_digit n hn] at this
  exact (Option.some.inj this).symm

end Hex

namespace Uuid

/-! ## Digits -/

theorem bytes?_eq_some_iff : ∀ {ds : List Char} {bs : Octets},
    bytes? ds = some bs ↔ ds.map Char.toLower = bs.flatMap Hex.ofByte
  | [], [] => by simp [bytes?]
  | [], b :: bs => by simp [bytes?, Hex.ofByte]
  | [d], [] => by simp [bytes?]
  | [d], b :: bs => by simp [bytes?, Hex.ofByte]
  | high :: low :: ds, [] => by simp [bytes?, Option.bind_eq_some_iff]
  | high :: low :: ds, b :: bs => by
    have hb : ∀ h < 16, ∀ l < 16, UInt8.ofNat (h * 16 + l) = b
        ↔ h = b.toNat / 16 ∧ l = b.toNat % 16 := fun h hh l hl => by
      rw [← UInt8.toNat_inj, UInt8.toNat_ofNat']
      omega
    have hlt := b.toNat_lt
    simp only [bytes?, Option.bind_eq_bind, Option.bind_eq_some_iff, Option.some.injEq,
      List.cons.injEq, Hex.value?_eq_some_iff, bytes?_eq_some_iff, List.map_cons,
      List.flatMap_cons, Hex.ofByte, List.cons_append, List.nil_append]
    refine ⟨?_, fun ⟨hh, hl, hrest⟩ => ?_⟩
    · rintro ⟨h, ⟨hh, hhigh⟩, l, ⟨hl, hlow⟩, rest, hrest, hbyte, rfl⟩
      obtain ⟨rfl, rfl⟩ := (hb h hh l hl).1 hbyte
      exact ⟨hhigh, hlow, hrest⟩
    · exact ⟨b.toNat / 16, ⟨by omega, hh⟩, b.toNat % 16, ⟨by omega, hl⟩, bs, hrest,
        (hb _ (by omega) _ (by omega)).2 ⟨rfl, rfl⟩, rfl⟩

theorem bytes?_digits (bs : Octets) : bytes? (bs.flatMap Hex.ofByte) = some bs := by
  have hlower : ∀ n < 16, (Hex.digit n).toLower = Hex.digit n := fun n hn =>
    (Hex.value?_eq_some_iff.1 (Json.value?_digit n hn)).2
  have hbyte : ∀ b : UInt8, (Hex.ofByte b).map Char.toLower = Hex.ofByte b := fun b => by
    have := b.toNat_lt
    rw [Hex.ofByte, List.map_cons, List.map_cons, List.map_nil, hlower _ (by omega),
      hlower _ (by omega)]
  rw [bytes?_eq_some_iff, List.map_flatMap]
  simp only [hbyte]

theorem exists_digit_of_mem {bs : Octets} {c : Char} (hc : c ∈ bs.flatMap Hex.ofByte) :
    ∃ n < 16, c = Hex.digit n := by
  obtain ⟨b, -, hb⟩ := List.mem_flatMap.1 hc
  have := b.toNat_lt
  simp only [Hex.ofByte, List.mem_cons, List.not_mem_nil, or_false] at hb
  rcases hb with rfl | rfl
  · exact ⟨b.toNat / 16, by omega, rfl⟩
  · exact ⟨b.toNat % 16, by omega, rfl⟩

theorem length_of_bytes? {ds : List Char} {bs : Octets} (h : bytes? ds = some bs) :
    ds.length = 2 * bs.length := by
  rw [← List.length_map Char.toLower, bytes?_eq_some_iff.1 h]
  simp [List.length_flatMap, Hex.ofByte, List.map_const', Nat.mul_comm]

theorem isDigit_of_bytes? {ds : List Char} {bs : Octets} (h : bytes? ds = some bs) {d : Char}
    (hd : d ∈ ds) : Hex.isDigit d = true :=
  Hex.isDigit_iff.2 (exists_digit_of_mem (bytes?_eq_some_iff.1 h ▸ List.mem_map_of_mem hd))

/-- Digits stand for bytes if there are two for each. -/
theorem exists_bytes? : ∀ (n : Nat) {ds : List Char}, ds.length = 2 * n →
    (∀ d ∈ ds, Hex.isDigit d = true) → ∃ bs, bytes? ds = some bs ∧ bs.length = n
  | 0, ds, hn, _ => by
    obtain rfl := List.eq_nil_of_length_eq_zero hn
    exact ⟨[], rfl, rfl⟩
  | _ + 1, [], hn, _ => by simp at hn
  | _ + 1, [_], hn, _ => by
    simp only [List.length_cons, List.length_nil] at hn
    omega
  | n + 1, high :: low :: ds, hn, hdigit => by
    simp only [List.forall_mem_cons, Hex.isDigit, Option.isSome_iff_exists] at hdigit
    obtain ⟨⟨h, hhigh⟩, ⟨l, hlow⟩, hds⟩ := hdigit
    have hlen : ds.length = 2 * n := by
      simp only [List.length_cons] at hn
      omega
    obtain ⟨bs, hbs, rfl⟩ := exists_bytes? n hlen fun d hd =>
      Option.isSome_iff_exists.2 (hds d hd)
    exact ⟨UInt8.ofNat (h * 16 + l) :: bs, by simp only [bytes?, hhigh, hlow, hbs]; rfl, rfl⟩

theorem getElem?_digits : ∀ (bs : Octets) (i : Nat),
    (bs.flatMap Hex.ofByte)[2 * i]? = bs[i]?.map fun b => Hex.digit (b.toNat / 16)
  | [], i => by simp
  | b :: bs, 0 => rfl
  | b :: bs, i + 1 => by
    rw [List.flatMap_cons, Hex.ofByte, show 2 * (i + 1) = 2 * i + 2 by omega]
    exact getElem?_digits bs i

/-- The version is a digit of its own. -/
theorem version_eq_iff {bytes : Block 16} {v : Nat} (hv : v < 16) :
    version bytes = v ↔ (bytes.octets.flatMap Hex.ofByte)[12]? = some (Hex.digit v) := by
  have h6 : 6 < bytes.octets.length := by simp
  have hget := bytes.octets[6].toNat_lt
  rw [version, List.getD_eq_getElem?_getD, getElem?_digits bytes.octets 6,
    List.getElem?_eq_getElem h6, Option.getD_some, Option.map_some, Option.some.injEq]
  exact ⟨fun h => by rw [h], fun h => Hex.digit_inj (by omega) hv h⟩

theorem toNat_lt_of_mem_digits {bs : Octets} {c : Char} (hc : c ∈ bs.flatMap Hex.ofByte) :
    c.toNat < 128 := by
  obtain ⟨n, hn, rfl⟩ := exists_digit_of_mem hc
  exact Json.toNat_digit_lt n hn

/-! ## Groups -/

/-- Groups of these sizes with a separator after each but the last, which takes what is left. -/
def group {α : Type} (sep : α) : List Nat → List α → List α
  | [], _ => []
  | [_], as => as
  | size :: sizes, as => as.take size ++ sep :: group sep sizes (as.drop size)

theorem exists_append_of_le {α : Type} {n : Nat} {as : List α} (h : n ≤ as.length) :
    ∃ bs cs, as = bs ++ cs ∧ bs.length = n :=
  ⟨as.take n, as.drop n, (List.take_append_drop n as).symm, List.length_take_of_le h⟩

theorem group_append {α : Type} (sep : α) {size : Nat} {as : List α} (h : as.length = size)
    (next : Nat) (sizes : List Nat) (bs : List α) :
    group sep (size :: next :: sizes) (as ++ bs) = as ++ sep :: group sep (next :: sizes) bs := by
  rw [group, List.take_left' h, List.drop_left' h]
  simp

theorem ungroup?_eq_some_iff : ∀ {sizes : List Nat} {cs ds : List Char}, sizes ≠ [] →
    (ungroup? sizes cs = some ds ↔ ds.length = sizes.sum ∧ cs = group '-' sizes ds)
  | [], _, _, h => absurd rfl h
  | [size], cs, ds, _ => by
    simp only [ungroup?, group, List.sum_singleton, Option.ite_none_right_eq_some,
      Option.some.injEq]
    exact ⟨fun ⟨hlen, h⟩ => ⟨h ▸ hlen, h⟩, fun ⟨hlen, h⟩ => ⟨h ▸ hlen, h⟩⟩
  | size :: next :: sizes, cs, ds, _ => by
    have ih : ∀ {cs ds : List Char}, ungroup? (next :: sizes) cs = some ds
        ↔ ds.length = (next :: sizes).sum ∧ cs = group '-' (next :: sizes) ds :=
      ungroup?_eq_some_iff (List.cons_ne_nil next sizes)
    have hsum : (size :: next :: sizes).sum = size + (next :: sizes).sum := List.sum_cons
    simp only [ungroup?, hsum, Option.ite_none_right_eq_some, Option.map_eq_some_iff, ih]
    refine ⟨?_, fun ⟨hlen, h⟩ => ?_⟩
    · rintro ⟨hsep, es, ⟨hes, hdrop⟩, rfl⟩
      obtain ⟨hlt, hget⟩ := List.getElem?_eq_some_iff.1 hsep
      have htake : (cs.take size).length = size := by
        rw [List.length_take]
        omega
      refine ⟨by rw [List.length_append, htake, hes], ?_⟩
      rw [group_append '-' htake, ← hdrop, ← hget, List.getElem_cons_drop,
        List.take_append_drop]
    · obtain ⟨as, bs, rfl, rfl⟩ := exists_append_of_le (show size ≤ ds.length by omega)
      rw [group_append '-' rfl] at h
      subst h
      refine ⟨by simp, bs, ⟨?_, ?_⟩, ?_⟩
      · rw [List.length_append] at hlen
        omega
      · rw [← List.drop_drop, List.drop_left]
        rfl
      · rw [List.take_left]

theorem ungroup?_map_toLower : ∀ (sizes : List Nat) (cs : List Char),
    ungroup? sizes (cs.map Char.toLower) = (ungroup? sizes cs).map (·.map Char.toLower)
  | [], _ => rfl
  | [size], cs => by
    simp only [ungroup?, List.length_map]
    split_ifs <;> rfl
  | size :: next :: sizes, cs => by
    have hsep : (cs.map Char.toLower)[size]? = some '-' ↔ cs[size]? = some '-' := by
      rw [List.getElem?_map, Option.map_eq_some_iff]
      simp only [toLower_eq_iff_of_lt (show '-'.toNat < 65 by decide), exists_eq_right]
    have ih := ungroup?_map_toLower (next :: sizes) (cs.drop (size + 1))
    simp only [ungroup?, hsep, ← List.map_drop, ← List.map_take, ih] at ih ⊢
    split_ifs
    · rw [Option.map_map, Option.map_map]
      congr 1
      funext ds
      simp
    · rfl

/-! ## Forms -/

theorem mem_group {α : Type} {sep a : α} : ∀ {sizes : List Nat} {as : List α},
    a ∈ group sep sizes as → a = sep ∨ a ∈ as
  | [], _, h => absurd h List.not_mem_nil
  | [_], _, h => .inr h
  | size :: next :: sizes, as, h => by
    rw [group, List.mem_append, List.mem_cons] at h
    · rcases h with h | h | h
      · exact .inr (List.mem_of_mem_take h)
      · exact .inl h
      · exact (mem_group h).imp_right List.mem_of_mem_drop
    · simp

variable (bytes : Block 16)

theorem length_digits : (bytes.octets.flatMap Hex.ofByte).length = 32 := by
  rw [length_of_bytes? (bytes?_digits bytes.octets), bytes.length_octets]

theorem toList_render : (DeviceId.render bytes).toList
    = group '-' groupSizes (bytes.octets.flatMap Hex.ofByte) := by
  simp [DeviceId.render, groupSizes, group, List.drop_drop]

theorem ungroup?_render : ungroup? groupSizes (DeviceId.render bytes).toList
    = some (bytes.octets.flatMap Hex.ofByte) :=
  (ungroup?_eq_some_iff (by simp [groupSizes])).2 ⟨length_digits bytes, toList_render bytes⟩

theorem length_render : (DeviceId.render bytes).toList.length = 36 := by
  simp only [toList_render, group, groupSizes, List.length_append, List.length_cons,
    List.length_take, List.length_drop, length_digits]
  rfl

theorem toNat_lt_of_mem_render {c : Char} (hc : c ∈ (DeviceId.render bytes).toList) :
    c.toNat < 128 := by
  rw [toList_render] at hc
  rcases mem_group hc with rfl | hc
  · decide
  · exact toNat_lt_of_mem_digits hc

variable {bytes}

/-- Up to the case of its letters a text is the hyphenated form if and only if its groups hold
digits that stand for the bytes. -/
theorem toLower_eq_render_iff {s : String} : s.toLower = DeviceId.render bytes
    ↔ ∃ ds, ungroup? groupSizes s.toList = some ds ∧ bytes? ds = some bytes.octets := by
  have hne : groupSizes ≠ [] := by simp [groupSizes]
  calc s.toLower = DeviceId.render bytes
      ↔ s.toList.map Char.toLower
        = group '-' groupSizes (bytes.octets.flatMap Hex.ofByte) := by
        rw [← String.toList_inj, toList_render, toList_toLower]
    _ ↔ ungroup? groupSizes (s.toList.map Char.toLower)
        = some (bytes.octets.flatMap Hex.ofByte) := by
        rw [ungroup?_eq_some_iff hne]
        exact (and_iff_right (length_digits bytes)).symm
    _ ↔ _ := by
        simp only [ungroup?_map_toLower, Option.map_eq_some_iff, bytes?_eq_some_iff]

theorem toLower_render : (DeviceId.render bytes).toLower = DeviceId.render bytes :=
  toLower_eq_render_iff.2 ⟨_, ungroup?_render bytes, bytes?_digits bytes.octets⟩

theorem parse?_of_ascii {s : String} (h : ∀ c ∈ s.toList, c.toNat < 128) :
    parse? s = ofChars? s.toList := by
  rw [parse?, Octets.ofString_eq_ofChars, Octets.map_ofUInt8_ofChars h]

/-- A text of any form but the first is read by the hyphenated form within it. -/
theorem ofChars?_of_hyphenated? {cs hs ds : List Char} (hcs : cs.length ≠ 32)
    (hhs : hyphenated? cs = some hs) (hds : ungroup? groupSizes hs = some ds)
    (hbytes : bytes? ds = some bytes.octets) : ofChars? cs = some bytes := by
  simp [ofChars?, hcs, hhs, hds, hbytes]

theorem parse?_of_toLower {s : String} (h : s.toLower = DeviceId.render bytes) :
    parse? s = some bytes := by
  have hlist : s.toList.map Char.toLower = (DeviceId.render bytes).toList := by
    rw [← h, toList_toLower]
  have hascii : ∀ c ∈ s.toList, c.toNat < 128 := by
    intro c hc
    have hlt : c.toLower.toNat < 128 :=
      toNat_lt_of_mem_render bytes (hlist ▸ List.mem_map_of_mem hc)
    rw [toNat_toLower] at hlt
    split_ifs at hlt <;> omega
  have hlen : s.toList.length = 36 := by
    rw [← length_render bytes, ← hlist, List.length_map]
  obtain ⟨ds, hds, hbytes⟩ := toLower_eq_render_iff.1 h
  rw [parse?_of_ascii hascii]
  exact ofChars?_of_hyphenated? (by omega) (by rw [hyphenated?, if_pos hlen]) hds hbytes

/-- A reader of UUIDs takes the hyphenated form, letters in either case. -/
def ReadsHyphenated (read : String → Option (Block 16)) : Prop :=
  ∀ s bytes, s.toLower = DeviceId.render bytes → read s = some bytes

theorem readsHyphenated_parse? : ReadsHyphenated parse? := fun _ _ => parse?_of_toLower

theorem hyphenated?_braced {hs : List Char} (h : hs.length = 36) :
    hyphenated? ('\x7b' :: (hs ++ ['\x7d'])) = some hs := by
  have hlast : ('\x7b' :: (hs ++ ['\x7d'])).getLast? = some '\x7d' := by
    rw [← List.cons_append, List.getLast?_concat]
  have hlen : ('\x7b' :: (hs ++ ['\x7d'])).length = 38 := by simp [h]
  rw [hyphenated?, if_neg (by omega), if_pos hlen, if_pos ⟨rfl, hlast⟩, List.tail_cons,
    List.dropLast_concat]

theorem hyphenated?_urn {hs : List Char} (h : hs.length = 36) :
    hyphenated? ("urn:uuid:".toList ++ hs) = some hs := by
  have hlen : ("urn:uuid:".toList ++ hs).length = 45 := by
    rw [List.length_append, h]
    rfl
  rw [hyphenated?, if_neg (by omega), if_neg (by omega), if_pos hlen]
  exact Text.after?_eq_some_iff.2 rfl

theorem toNat_lt_of_mem_write (form : Form) {c : Char} (hc : c ∈ (form.write bytes).toList) :
    c.toNat < 128 := by
  have hprefix : ∀ c ∈ "urn:uuid:".toList, c.toNat < 128 := by simp
  cases form with
  | simple =>
    rw [Form.write, String.toList_ofList] at hc
    exact toNat_lt_of_mem_digits hc
  | hyphenated => exact toNat_lt_of_mem_render bytes hc
  | braced =>
    rw [Form.write, String.toList_append, String.toList_append, List.mem_append,
      List.mem_append] at hc
    rcases hc with (hc | hc) | hc
    · rw [List.mem_singleton.1 hc]
      decide
    · exact toNat_lt_of_mem_render bytes hc
    · rw [List.mem_singleton.1 hc]
      decide
  | urn =>
    rw [Form.write, String.toList_append, List.mem_append] at hc
    rcases hc with hc | hc
    · exact hprefix c hc
    · exact toNat_lt_of_mem_render bytes hc

/-- Each form is read as the UUID that was written. -/
theorem parse?_write (form : Form) : parse? (form.write bytes) = some bytes := by
  have hlen := length_render bytes
  have hgroups := ungroup?_render bytes
  have hdigits := bytes?_digits bytes.octets
  rw [parse?_of_ascii fun c => toNat_lt_of_mem_write form]
  cases form with
  | simple =>
    rw [Form.write, String.toList_ofList]
    simp only [ofChars?, if_pos (length_digits bytes), Option.bind_eq_bind, Option.bind_some,
      hdigits, Block.ofOctets?_octets]
  | hyphenated =>
    rw [Form.write]
    exact ofChars?_of_hyphenated? (by omega) (by rw [hyphenated?, if_pos hlen]) hgroups hdigits
  | braced =>
    have hlist : (Form.braced.write bytes).toList
        = '\x7b' :: ((DeviceId.render bytes).toList ++ ['\x7d']) := by
      simp [Form.write]
    rw [hlist]
    exact ofChars?_of_hyphenated? (by simp; omega) (hyphenated?_braced hlen) hgroups hdigits
  | urn =>
    have hlist : (Form.urn.write bytes).toList
        = "urn:uuid:".toList ++ (DeviceId.render bytes).toList := String.toList_append
    rw [hlist]
    exact ofChars?_of_hyphenated? (by simp; omega) (hyphenated?_urn hlen) hgroups hdigits

/-- No other form is a text as long as the hyphenated one. -/
theorem length_write_eq_iff (form : Form) :
    (form.write bytes).toList.length = 36 ↔ form = .hyphenated := by
  have hlen := length_render bytes
  cases form with
  | simple =>
    rw [Form.write, String.toList_ofList, length_digits]
    simp
  | hyphenated => simp [Form.write, hlen]
  | braced => simp [Form.write, hlen]
  | urn => simp [Form.write, hlen]

end Uuid

end DeviceAuth
