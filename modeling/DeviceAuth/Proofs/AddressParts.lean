import Mathlib.Tactic.Common
import DeviceAuth.Proofs.Gate
import DeviceAuth.Text.Affix

/-!
# The parts of an accepted address

The parts of an address are told from its text: the scheme is the longest run of scheme characters
at its start, and the authority ends at the first character that ends one
(`Url.split?_eq_some_iff`). An address that is accepted has an authority, and `://` before it, but
what stands before that need not be a scheme in the usual sense: it may be empty, begin with a digit
or a sign, or hold a tilde (`Url.accepted_parts`).
-/

namespace DeviceAuth

namespace Url

/-- The text of an address. -/
def text (u : Url) : String :=
  String.ofList (u.scheme ++ "://".toList ++ u.authority ++ u.rest)

/-- There is an authority, and it goes as far as the first character that ends one. -/
structure HasAuthority (u : Url) : Prop where
  ne_nil : u.authority ≠ []
  within : ∀ c ∈ u.authority, c ≠ '/' ∧ c ≠ '?' ∧ c ≠ '#'
  beyond : ∀ c ∈ u.rest.head?, c = '/' ∨ c = '?' ∨ c = '#'

/-- A scheme in the usual sense: a letter, then letters, digits, plus signs, hyphens and points. -/
structure IsScheme (scheme : List Char) : Prop where
  letter : ∃ c ∈ scheme.head?, c.isAlpha = true
  chars : ∀ c ∈ scheme, c.isAlphanum = true ∨ c = '+' ∨ c = '-' ∨ c = '.'

/-- The text is an absolute address in the usual sense. -/
def Absolute (s : String) : Prop := ∃ u : Url, s = u.text ∧ IsScheme u.scheme ∧ HasAuthority u

theorem endsAuthority_iff {c : Char} : endsAuthority c = true ↔ c = '/' ∨ c = '?' ∨ c = '#' := by
  simp [endsAuthority, or_assoc]

theorem split_authority_iff {s authority rest : List Char} :
    s.takeWhile (! endsAuthority ·) = authority ∧ s.dropWhile (! endsAuthority ·) = rest ↔
      s = authority ++ rest ∧ (∀ c ∈ authority, c ≠ '/' ∧ c ≠ '?' ∧ c ≠ '#')
        ∧ ∀ c ∈ rest.head?, c = '/' ∨ c = '?' ∨ c = '#' := by
  have hwithin (c : Char) : (! endsAuthority c) = true ↔ c ≠ '/' ∧ c ≠ '?' ∧ c ≠ '#' := by
    rw [Bool.not_eq_true', ← Bool.not_eq_true, endsAuthority_iff, not_or, not_or]
  have hbeyond (c : Char) : (! endsAuthority c) = false ↔ c = '/' ∨ c = '?' ∨ c = '#' := by
    rw [Bool.not_eq_false', endsAuthority_iff]
  simp only [Text.takeWhile_dropWhile_eq_iff, hwithin, hbeyond]

theorem split?_eq_some_iff {s : List Char} {u : Url} :
    split? s = some u ↔ s = u.scheme ++ "://".toList ++ u.authority ++ u.rest
      ∧ (∀ c ∈ u.scheme, isSchemeChar c = true)
      ∧ (∀ c ∈ u.authority, c ≠ '/' ∧ c ≠ '?' ∧ c ≠ '#')
      ∧ ∀ c ∈ u.rest.head?, c = '/' ∨ c = '?' ∨ c = '#' := by
  obtain ⟨scheme, authority, rest⟩ := u
  refine ⟨fun h => ?_, ?_⟩
  · unfold split? at h
    split at h
    · rename_i s' hs'
      obtain ⟨hscheme, hauthority, hrest⟩ : s.takeWhile isSchemeChar = scheme ∧ _ ∧ _ := by
        simpa only [Option.some.injEq, Url.mk.injEq] using h
      obtain ⟨hs, hchars, -⟩ := Text.takeWhile_dropWhile_eq_iff.1 ⟨hscheme, hs'⟩
      obtain ⟨rfl, hwithin, hbeyond⟩ := split_authority_iff.1 ⟨hauthority, hrest⟩
      exact ⟨by simp [hs], hchars, hwithin, hbeyond⟩
    · cases h
  · rintro ⟨hs, hchars, hwithin, hbeyond⟩
    have hs' : s = scheme ++ ':' :: '/' :: '/' :: (authority ++ rest) := by simpa using hs
    obtain ⟨hscheme, hdrop⟩ :=
      Text.takeWhile_dropWhile_eq_iff.2 ⟨hs', hchars, by simp [isSchemeChar]⟩
    obtain ⟨hauthority, hrest⟩ := split_authority_iff.2 ⟨rfl, hwithin, hbeyond⟩
    simp only [split?, hdrop, hscheme, hauthority, hrest]

theorem toList_text (u : Url) :
    u.text.toList = u.scheme ++ "://".toList ++ u.authority ++ u.rest := String.toList_ofList

theorem IsScheme.isSchemeChar {scheme : List Char} (h : IsScheme scheme) :
    ∀ c ∈ scheme, Url.isSchemeChar c = true := by
  intro c hc
  rcases h.chars c hc with hc | rfl | rfl | rfl <;> simp_all [Url.isSchemeChar]

/-- Of the characters that are taken for a scheme, only the tilde does not belong into one. -/
theorem isScheme_iff {scheme : List Char} (h : ∀ c ∈ scheme, isSchemeChar c = true) :
    IsScheme scheme ↔ (∃ c ∈ scheme.head?, c.isAlpha = true) ∧ '~' ∉ scheme := by
  refine ⟨fun hs => ⟨hs.letter, fun hmem => ?_⟩, fun ⟨hletter, htilde⟩ => ⟨hletter, fun c hc => ?_⟩⟩
  · have := hs.chars _ hmem
    revert this
    decide
  · have hne : c ≠ '~' := fun he => htilde (he ▸ hc)
    simpa [isSchemeChar, hne, or_assoc] using h c hc

/-- A text has at most one reading as a scheme and an authority, so that reading decides. -/
theorem absolute_iff {s : String} {u : Url} (h : split? s.toList = some u)
    (hne : u.authority ≠ []) : Absolute s ↔ IsScheme u.scheme := by
  obtain ⟨htext, -, hwithin, hbeyond⟩ := split?_eq_some_iff.1 h
  refine ⟨?_, fun hscheme => ⟨u, ?_, hscheme, hne, hwithin, hbeyond⟩⟩
  · rintro ⟨u', rfl, hscheme, hauthority⟩
    have h' : split? u'.text.toList = some u' := split?_eq_some_iff.2
      ⟨u'.toList_text, hscheme.isSchemeChar, hauthority.within, hauthority.beyond⟩
    obtain rfl := Option.some.inj (h'.symm.trans h)
    exact hscheme
  · rw [text, ← htext, String.ofList_toList]

/-- The authority of an accepted address is not empty. -/
theorem exists_split?_of_isAbsolute {s : String} (h : isAbsolute s = true) :
    ∃ u, split? s.toList = some u ∧ u.scheme.length ≤ maxSchemeLength ∧ u.authority ≠ [] := by
  rcases hs : split? s.toList with _ | u
  · simp [isAbsolute, hs] at h
  · simp only [isAbsolute, hs, isAuthority, Bool.and_eq_true, decide_eq_true_eq] at h
    obtain ⟨-, ⟨hlength, ⟨hne, -⟩, -⟩, -⟩ := h
    exact ⟨u, rfl, hlength, hne⟩

/-- An address that is accepted has one reading as a scheme, `://`, an authority and a rest. The
authority is not empty and goes as far as the first slash, question mark or hash sign. The scheme
has at most 64 characters and no others than letters, digits, plus signs, hyphens, points and
tildes, but it may be empty and need not begin with a letter: the address is absolute in the usual
sense if and only if its scheme begins with a letter and has no tilde. -/
theorem accepted_parts {url : String} (h : validateServerUrl url = .ok ()) :
    ∃ u : Url, split? url.toList = some u ∧ url = u.text ∧ HasAuthority u
      ∧ u.scheme.length ≤ 64
      ∧ (∀ c ∈ u.scheme, c.isAlphanum = true ∨ c = '+' ∨ c = '-' ∨ c = '.' ∨ c = '~')
      ∧ (Absolute url ↔ (∃ c ∈ u.scheme.head?, c.isAlpha = true) ∧ '~' ∉ u.scheme) := by
  obtain ⟨u, hu, hlength, hne⟩ :=
    exists_split?_of_isAbsolute (Settings.validateServerUrl_eq_ok_iff.1 h)
  obtain ⟨htext, hchars, hwithin, hbeyond⟩ := split?_eq_some_iff.1 hu
  refine ⟨u, hu, ?_, ⟨hne, hwithin, hbeyond⟩, hlength, fun c hc => ?_, ?_⟩
  · rw [text, ← htext, String.ofList_toList]
  · simpa [isSchemeChar, or_assoc] using hchars c hc
  · rw [absolute_iff hu hne, isScheme_iff hchars]

/-- The slash in a query does not end the authority. -/
theorem accepted_parts_of_local_address :
    validateServerUrl "hTtp+x://[::1]:80?q/r" = .ok () ∧ Absolute "hTtp+x://[::1]:80?q/r"
      ∧ ∃ u : Url, split? "hTtp+x://[::1]:80?q/r".toList = some u ∧ HasAuthority u
        ∧ u.authority = "[::1]:80".toList := by
  have h : validateServerUrl "hTtp+x://[::1]:80?q/r" = .ok () := by decide +kernel
  have hsplit : split? "hTtp+x://[::1]:80?q/r".toList
      = some ⟨"hTtp+x".toList, "[::1]:80".toList, "?q/r".toList⟩ := rfl
  obtain ⟨u, hu, -, hauthority, -, -, habsolute⟩ := accepted_parts h
  obtain rfl := Option.some.inj (hsplit.symm.trans hu)
  exact ⟨h, habsolute.2 ⟨⟨'h', rfl, by decide⟩, by decide⟩, _, hu, hauthority, rfl⟩

/-- An address without a scheme is accepted. -/
theorem accepts_empty_scheme : validateServerUrl "://h" = .ok () ∧ ¬ Absolute "://h" := by
  refine ⟨by decide +kernel, fun h => ?_⟩
  have hu : split? "://h".toList = some ⟨[], ['h'], []⟩ := rfl
  obtain ⟨c, hc, -⟩ := ((absolute_iff hu (by decide)).1 h).letter
  cases hc

end Url

end DeviceAuth
