import Mathlib.Tactic.Common
import DeviceAuth.Proofs.Utf8
import DeviceAuth.Json.Text

/-!
# Texts written as JSON strings

A text between quotes scans as one token, whatever follows it (`scan_quote`), and that token stands
for the text again (`unquote?_raw`). Both go character by character: what is escaped scans as part
of the string it stands in, and is taken apart into the bytes of its character.
-/

namespace DeviceAuth.Json

open Octets (ofChars)

/-- A text as it stands between its quotes. -/
def raw (s : String) : Octets := ofChars (s.toList.flatMap escape)

/-- What `escape` does with a character: a backslash and a letter, a code unit, or nothing. -/
theorem escape_cases (c : Char) :
    (∃ e b, escape c = ['\\', e] ∧ Token.isEscape e = true ∧ escaped? e = some b
        ∧ String.utf8EncodeChar c = [b] ∧ e.toNat < 128)
      ∨ (c.toNat < 0x20 ∧ escape c
          = ['\\', 'u', '0', '0', Hex.digit (c.toNat / 16), Hex.digit (c.toNat % 16)])
      ∨ (c ≠ '"' ∧ c ≠ '\\' ∧ 0x20 ≤ c.toNat ∧ escape c = [c]) := by
  unfold escape
  split_ifs with h₁ h₂ h₃ h₄ h₅ h₆ h₇ h₈
  · subst h₁; exact .inl ⟨_, 0x22, rfl, rfl, rfl, rfl, by decide⟩
  · subst h₂; exact .inl ⟨_, 0x5c, rfl, rfl, rfl, rfl, by decide⟩
  · subst h₃; exact .inl ⟨_, 0x08, rfl, rfl, rfl, rfl, by decide⟩
  · subst h₄; exact .inl ⟨_, 0x0c, rfl, rfl, rfl, rfl, by decide⟩
  · subst h₅; exact .inl ⟨_, 0x0a, rfl, rfl, rfl, rfl, by decide⟩
  · subst h₆; exact .inl ⟨_, 0x0d, rfl, rfl, rfl, rfl, by decide⟩
  · subst h₇; exact .inl ⟨_, 0x09, rfl, rfl, rfl, rfl, by decide⟩
  · exact .inr (.inl ⟨h₈, rfl⟩)
  · exact .inr (.inr ⟨h₁, h₂, by omega, rfl⟩)

/-- The bytes of a character that is not escaped are neither quotes, backslashes nor controls. -/
theorem plain_of_mem_utf8EncodeChar {c : Char} (hq : c ≠ '"') (hb : c ≠ '\\')
    (hc : 0x20 ≤ c.toNat) {b : UInt8} (h : b ∈ String.utf8EncodeChar c) :
    Char.ofUInt8 b ≠ '"' ∧ Char.ofUInt8 b ≠ '\\' ∧ ¬ b < 0x20 := by
  rcases Nat.lt_or_ge c.toNat 128 with hlt | hge
  · rw [Octets.utf8EncodeChar_of_lt hlt, List.mem_singleton] at h
    subst h
    rw [Octets.ofUInt8_ofNat (by omega), UInt8.lt_iff_toNat_lt, UInt8.toNat_ofNat']
    exact ⟨hq, hb, by simp; omega⟩
  · have hle := Octets.le_of_mem_utf8EncodeChar hge h
    have hne : ∀ d : Char, d.toNat < 128 → Char.ofUInt8 b ≠ d := by
      rintro d hd rfl
      rw [Octets.toNat_ofUInt8] at hd
      omega
    refine ⟨hne _ (by decide), hne _ (by decide), ?_⟩
    rw [UInt8.lt_iff_toNat_lt, Nat.not_lt]
    exact Nat.le_trans (by decide) hle

theorem isDigit_digit : ∀ n < 16, Hex.isDigit (Hex.digit n) = true := by decide

theorem value?_digit : ∀ n < 16, Hex.value? (Hex.digit n) = some n := by decide

theorem toNat_digit_lt : ∀ n < 16, (Hex.digit n).toNat < 128 := by decide

theorem ofUInt8_digit : ∀ n < 16,
    Char.ofUInt8 (UInt8.ofNat (Hex.digit n).toNat) = Hex.digit n := by decide

/-- The bytes of a character written as a code unit. -/
theorem ofChars_codeUnit {n : Nat} (h : n < 0x20) :
    ofChars ['\\', 'u', '0', '0', Hex.digit (n / 16), Hex.digit (n % 16)]
      = [0x5c, 0x75, 0x30, 0x30, UInt8.ofNat (Hex.digit (n / 16)).toNat,
          UInt8.ofNat (Hex.digit (n % 16)).toNat] := by
  have h₁ := Octets.utf8EncodeChar_of_lt (toNat_digit_lt (n / 16) (by omega))
  have h₀ := Octets.utf8EncodeChar_of_lt (toNat_digit_lt (n % 16) (by omega))
  simp only [ofChars, List.flatMap_cons, List.flatMap_nil, h₁, h₀]
  rfl

/-! ## Scanning -/

namespace Token

theorem scan_plain : ∀ (bs rest read : Octets),
    (∀ b ∈ bs, Char.ofUInt8 b ≠ '"' ∧ Char.ofUInt8 b ≠ '\\' ∧ ¬ b < 0x20) →
      scan (.inText read) (bs ++ rest) = scan (.inText (bs.reverse ++ read)) rest
  | [], _, _, _ => rfl
  | b :: bs, rest, read, h => by
    obtain ⟨hq, hb, hc⟩ := h b List.mem_cons_self
    rw [List.cons_append, scan]
    simp only [if_neg hq, if_neg hb, if_neg hc]
    rw [scan_plain bs rest (b :: read) fun b hb => h b (List.mem_cons_of_mem _ hb)]
    simp

theorem scan_escape (c : Char) (rest read : Octets) :
    scan (.inText read) (ofChars (escape c) ++ rest)
      = scan (.inText ((ofChars (escape c)).reverse ++ read)) rest := by
  rcases escape_cases c with ⟨e, b, he, hi, -, -, hlt⟩ | ⟨hlt, he⟩ | ⟨hq, hb, hc, he⟩
  · rw [he]
    have hu := Octets.utf8EncodeChar_of_lt hlt
    have ho := Octets.ofUInt8_ofNat (c := e) (by omega)
    have hs : String.utf8EncodeChar '\\' = [0x5c] := rfl
    simp only [ofChars, List.flatMap_cons, List.flatMap_nil, hu, hs, List.append_nil,
      List.cons_append, List.nil_append, List.reverse_cons, List.reverse_nil]
    rw [scan, if_neg (by decide), if_pos (by decide), scan]
    simp only [ho, hi, if_true]
  · rw [he, ofChars_codeUnit hlt]
    have h₁ := isDigit_digit (c.toNat / 16) (by omega)
    have h₀ := isDigit_digit (c.toNat % 16) (by omega)
    have o₁ := ofUInt8_digit (c.toNat / 16) (by omega)
    have o₀ := ofUInt8_digit (c.toNat % 16) (by omega)
    have hz : Hex.isDigit (Char.ofUInt8 0x30) = true := rfl
    simp only [List.cons_append, List.nil_append, List.reverse_cons, List.reverse_nil]
    rw [scan, if_neg (by decide), if_pos (by decide), scan, if_neg (by decide), if_pos (by decide),
      scan, if_pos hz, if_neg (by decide), scan, if_pos hz, if_neg (by decide), scan, o₁, if_pos h₁,
      if_neg (by decide), scan, o₀, if_pos h₀, if_pos (by decide)]
  · rw [he]
    refine scan_plain _ _ _ fun b h => ?_
    rw [ofChars, List.flatMap_singleton] at h
    exact plain_of_mem_utf8EncodeChar hq hb hc h

theorem scan_escapes : ∀ (cs : List Char) (rest read : Octets),
    scan (.inText read) (ofChars (cs.flatMap escape) ++ rest)
      = scan (.inText ((ofChars (cs.flatMap escape)).reverse ++ read)) rest
  | [], _, _ => rfl
  | c :: cs, rest, read => by
    rw [List.flatMap_cons, Octets.ofChars_append, List.append_assoc, scan_escape, scan_escapes cs]
    simp

/-- A text between quotes is one token. -/
theorem scan_quote (s : String) (rest : Octets) :
    scan .between (ofChars (quote s) ++ rest) = .text (raw s) :: scan .between rest := by
  have hq : String.utf8EncodeChar '"' = [0x22] := rfl
  rw [quote, List.cons_append, Octets.ofChars_cons, Octets.ofChars_append, hq, List.append_assoc,
    List.append_assoc, List.singleton_append, scan]
  simp only [show start? (Char.ofUInt8 0x22) = some (none, .inText []) from rfl,
    Option.toList_none, List.nil_append]
  rw [scan_escapes, List.append_nil, Octets.ofChars_cons, hq, Octets.ofChars_nil, List.append_nil,
    List.singleton_append, scan, if_pos (by decide), List.reverse_reverse, raw]

end Token

/-! ## Taking escapes apart -/

/-- The bytes that a string stands for. -/
def unescape? (bs : Octets) : Option Octets := pieces? bs >>= assemble?

theorem unquote?_eq (bs : Octets) : unquote? bs = unescape? bs >>= Octets.text? := by
  simp [unquote?, unescape?, Option.bind_assoc]

theorem pieces?_cons {b : UInt8} (h : Char.ofUInt8 b ≠ '\\') (bs : Octets) :
    pieces? (b :: bs) = (pieces? bs).map (.octet b :: ·) := by
  rw [pieces?.eq_def]
  simp only [if_pos h]

theorem pieces?_escape {e b : UInt8} (h : escaped? (Char.ofUInt8 e) = some b) (bs : Octets) :
    pieces? (0x5c :: e :: bs) = (pieces? bs).map (.octet b :: ·) := by
  rw [pieces?.eq_def]
  simp only [show ¬ Char.ofUInt8 0x5c ≠ '\\' from by decide, if_false, h]

theorem pieces?_codeUnit {h₃ h₂ h₁ h₀ : UInt8} {n₃ n₂ n₁ n₀ : Nat}
    (e₃ : Hex.value? (Char.ofUInt8 h₃) = some n₃) (e₂ : Hex.value? (Char.ofUInt8 h₂) = some n₂)
    (e₁ : Hex.value? (Char.ofUInt8 h₁) = some n₁) (e₀ : Hex.value? (Char.ofUInt8 h₀) = some n₀)
    (bs : Octets) :
    pieces? (0x5c :: 0x75 :: h₃ :: h₂ :: h₁ :: h₀ :: bs)
      = (pieces? bs).map (.codeUnit (((n₃ * 16 + n₂) * 16 + n₁) * 16 + n₀) :: ·) := by
  rw [pieces?.eq_def]
  simp only [show ¬ Char.ofUInt8 0x5c ≠ '\\' from by decide, if_false,
    show escaped? (Char.ofUInt8 0x75) = none from rfl,
    show ¬ Char.ofUInt8 0x75 ≠ 'u' from by decide, e₃, e₂, e₁, e₀, Option.bind_eq_bind,
    Option.bind_some, Option.map_eq_bind]
  rfl

theorem assemble?_codeUnit {n : Nat} (h : n < 0xd800 ∨ 0xe000 ≤ n) (ps : List Piece) :
    assemble? (.codeUnit n :: ps)
      = (assemble? ps).map (String.utf8EncodeChar (Char.ofNat n) ++ ·) := by
  rw [assemble?.eq_def]
  simp only [if_pos h]

theorem unescape?_octet {b : UInt8} {bs rest : Octets}
    (h : pieces? bs = (pieces? rest).map (.octet b :: ·)) :
    unescape? bs = (unescape? rest).map (b :: ·) := by
  rw [unescape?, unescape?, h]
  rcases pieces? rest with _ | ps <;> rfl

theorem unescape?_plain : ∀ (bs rest : Octets), (∀ b ∈ bs, Char.ofUInt8 b ≠ '\\') →
    unescape? (bs ++ rest) = (unescape? rest).map (bs ++ ·)
  | [], rest, _ => by simp
  | b :: bs, rest, h => by
    have ih := unescape?_plain bs rest fun b hb => h b (List.mem_cons_of_mem _ hb)
    rw [List.cons_append, unescape?_octet (pieces?_cons (h b List.mem_cons_self) _), ih,
      Option.map_map]
    rfl

theorem unescape?_escape (c : Char) (rest : Octets) :
    unescape? (ofChars (escape c) ++ rest)
      = (unescape? rest).map (String.utf8EncodeChar c ++ ·) := by
  rcases escape_cases c with ⟨e, b, he, -, hb, hc, hlt⟩ | ⟨hlt, he⟩ | ⟨hq, hb, hc, he⟩
  · have hu := Octets.utf8EncodeChar_of_lt hlt
    have ho := Octets.ofUInt8_ofNat (c := e) (by omega)
    have hs : String.utf8EncodeChar '\\' = [0x5c] := rfl
    rw [he, hc]
    simp only [ofChars, List.flatMap_cons, List.flatMap_nil, hu, hs, List.append_nil,
      List.cons_append, List.nil_append]
    exact unescape?_octet (pieces?_escape (by rw [ho, hb]) rest)
  · have h₁ := value?_digit (c.toNat / 16) (by omega)
    have h₀ := value?_digit (c.toNat % 16) (by omega)
    have o₁ := ofUInt8_digit (c.toNat / 16) (by omega)
    have o₀ := ofUInt8_digit (c.toNat % 16) (by omega)
    have hz : Hex.value? (Char.ofUInt8 0x30) = some 0 := rfl
    have hn : ((0 * 16 + 0) * 16 + c.toNat / 16) * 16 + c.toNat % 16 = c.toNat := by omega
    rw [he, ofChars_codeUnit hlt]
    simp only [List.cons_append, List.nil_append]
    rw [unescape?, pieces?_codeUnit hz hz (by rw [o₁, h₁]) (by rw [o₀, h₀]), hn, unescape?]
    rcases pieces? rest with _ | ps
    · rfl
    · rw [Option.map_some, Option.bind_eq_bind, Option.bind_some,
        assemble?_codeUnit (Or.inl (by omega)), Char.ofNat_toNat]
      rfl
  · have hs : ofChars (escape c) = String.utf8EncodeChar c := by
      rw [he, ofChars, List.flatMap_singleton]
    rw [hs]
    exact unescape?_plain _ _ fun b h => (plain_of_mem_utf8EncodeChar hq hb hc h).2.1

theorem unescape?_escapes : ∀ cs : List Char,
    unescape? (ofChars (cs.flatMap escape)) = some (ofChars cs)
  | [] => rfl
  | c :: cs => by
    rw [List.flatMap_cons, Octets.ofChars_append, unescape?_escape, unescape?_escapes cs]
    rfl

/-- What was written between quotes is read as the same text. -/
theorem unquote?_raw (s : String) : unquote? (raw s) = some s := by
  rw [unquote?_eq, raw, unescape?_escapes, Option.bind_eq_bind, Option.bind_some,
    ← Octets.ofString_eq_ofChars, Octets.text?_ofString]

end DeviceAuth.Json
