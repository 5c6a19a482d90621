import Mathlib.Tactic.Common
import DeviceAuth.Proofs.Base64
import DeviceAuth.Token.Checked
import DeviceAuth.Token.Claims

/-!
# Tokens and what they seal

A token is a body and a footer in one way of writing them (`Envelope.parse?_eq_some_iff`). So under
one key and one implicit assertion, the texts that open are those that sealing writes, each for one
nonce, one message and one footer; a text that is no body and footer is malformed, and any other
that does not open fails to authenticate (`decode_accepts_exactly`). No keyed hash refuses its key:
sealing and opening with every check come to the same as without.
-/

namespace DeviceAuth.Token

/-- What follows a token's body: nothing, or a point and the footer. -/
def footerText (footer : Octets) : List Char :=
  if footer = [] then [] else '.' :: Base64.url.encode footer

/-- A body and a footer as a token. -/
def write (body footer : Octets) : String :=
  String.ofList (header ++ Base64.url.encode body ++ footerText footer)

/-- The text is a token by its layout, whether or not it opens. -/
def HasLayout (token : String) : Prop :=
  ∃ body footer, 64 ≤ body.length ∧ token = write body footer

theorem ne_point_of_mem_encode {body : Octets} {c : Char} (h : c ∈ Base64.url.encode body) :
    c ≠ '.' := by
  rcases Base64.Alphabet.mem_encode h with ⟨n, hn, rfl⟩ | ⟨hp, -⟩
  · clear h
    revert n
    decide
  · exact absurd hp (by decide)

theorem head?_footerText (footer : Octets) : ∀ c ∈ (footerText footer).head?, c = '.' := by
  unfold footerText
  split <;> simp

/-- The first point ends the body. -/
theorem split_encode_append (body footer : Octets) :
    (Base64.url.encode body ++ footerText footer).takeWhile (· ≠ '.') = Base64.url.encode body
      ∧ (Base64.url.encode body ++ footerText footer).dropWhile (· ≠ '.') = footerText footer := by
  refine Text.takeWhile_dropWhile_eq_iff.2 ⟨rfl, fun c hc => ?_, fun c hc => ?_⟩
  · exact decide_eq_true (ne_point_of_mem_encode hc)
  · simpa using head?_footerText footer c hc

theorem footer?_footerText (footer : Octets) : footer? (footerText footer) = some footer := by
  unfold footerText
  split_ifs with h
  · rw [h]
    rfl
  · obtain ⟨c, s, hs⟩ := List.exists_cons_of_ne_nil
      (mt Base64.Alphabet.encode_eq_nil_iff.1 h : Base64.url.encode footer ≠ [])
    rw [hs]
    simp only [footer?]
    rw [← hs, Base64.Alphabet.decode?_encode Base64.Alphabet.lawful_url]

theorem footerText_of_footer? {s : List Char} {footer : Octets}
    (hs : ∀ c ∈ s.head?, c = '.') (h : footer? s = some footer) : s = footerText footer := by
  rcases s with _ | ⟨c, _ | ⟨d, s⟩⟩
  · obtain rfl := Option.some.inj h
    rfl
  · simp [footer?] at h
  · obtain rfl : c = '.' := hs c rfl
    have hf := Base64.Alphabet.encode_of_decode? Base64.Alphabet.lawful_url h
    have hne : footer ≠ [] := by
      rintro rfl
      simp [Base64.Alphabet.encode] at hf
    rw [footerText, if_neg hne, ← hf]

theorem head?_dropWhile_point (s : List Char) :
    ∀ c ∈ (s.dropWhile (· ≠ '.')).head?, c = '.' := by
  intro c hc
  obtain ⟨-, -, hstop⟩ := Text.takeWhile_dropWhile_eq_iff.1 ⟨rfl, rfl⟩
  simpa using hstop c hc

namespace Envelope

/-- The bytes of a token before its footer. -/
def body (e : Envelope) : Octets := e.nonce.octets ++ e.masked ++ e.tag.octets

/-- A token put together. -/
def text (e : Envelope) : String := write e.body e.footer

theorem length_body (e : Envelope) : e.body.length = e.masked.length + 64 := by
  simp only [body, List.length_append, Block.length_octets]
  omega

theorem le_length {body : Octets} (h : 64 ≤ body.length) : 32 ≤ body.length := by omega

theorem length_tag {body : Octets} (h : 64 ≤ body.length) :
    (body.drop (body.length - 32)).length = 32 := by
  rw [List.length_drop]
  omega

/-- The body cut at 32 bytes from its start and 32 from its end. -/
def ofBody (body footer : Octets) (h : 64 ≤ body.length) : Envelope where
  nonce := .take 32 body (le_length h)
  masked := (body.drop 32).take (body.length - 64)
  tag := ⟨body.drop (body.length - 32), length_tag h⟩
  footer := footer

theorem body_ofBody (body footer : Octets) (h : 64 ≤ body.length) :
    (ofBody body footer h).body = body := by
  have hd : body.drop (body.length - 32) = (body.drop 32).drop (body.length - 64) := by
    rw [List.drop_drop]
    congr 1
    omega
  simp only [Envelope.body, ofBody, Block.take, hd]
  rw [List.append_assoc, List.take_append_drop, List.take_append_drop]

theorem ofBody_body (e : Envelope) (h : 64 ≤ e.body.length) : ofBody e.body e.footer h = e := by
  obtain ⟨nonce, masked, tag, footer⟩ := e
  have hlen := length_body ⟨nonce, masked, tag, footer⟩
  simp only [ofBody, Block.take, hlen, mk.injEq, and_true, Block.ext_iff]
  simp only [body, List.append_assoc]
  rw [List.take_left' nonce.length_octets, List.drop_left' nonce.length_octets,
    Nat.add_sub_cancel, List.take_left' rfl]
  have hl : (nonce.octets ++ masked).length = masked.length + 64 - 32 := by
    rw [List.length_append, nonce.length_octets]
    omega
  exact ⟨rfl, rfl, by rw [← List.append_assoc, List.drop_left' hl]⟩

theorem parse?_write (body footer : Octets) :
    parse? (write body footer) =
      if h : 64 ≤ body.length then some (ofBody body footer h) else none := by
  obtain ⟨ht, hd⟩ := split_encode_append body footer
  have ha : Text.after? header (write body footer).toList
      = some (Base64.url.encode body ++ footerText footer) := by
    rw [Text.after?_eq_some_iff, write, String.toList_ofList, List.append_assoc]
  simp only [parse?, ha, Option.bind_eq_bind, Option.bind_some, hd, ht, footer?_footerText,
    Base64.Alphabet.decode?_encode Base64.Alphabet.lawful_url]
  rfl

/-- A text that is taken apart is written from a body and a footer. -/
theorem exists_write_of_parse? {token : String} {e : Envelope} (h : parse? token = some e) :
    ∃ body footer, token = write body footer := by
  simp only [parse?, Option.bind_eq_bind, Option.bind_eq_some_iff] at h
  obtain ⟨s, hs, footer, hf, body, hb, -⟩ := h
  refine ⟨body, footer, ?_⟩
  rw [write, ← Base64.Alphabet.encode_of_decode? Base64.Alphabet.lawful_url hb,
    ← footerText_of_footer? (head?_dropWhile_point s) hf, List.append_assoc,
    List.takeWhile_append_dropWhile, ← Text.after?_eq_some_iff.1 hs, String.ofList_toList]

/-- Taking apart accepts exactly what putting together produces. -/
theorem parse?_eq_some_iff {token : String} {e : Envelope} :
    parse? token = some e ↔ token = e.text := by
  refine ⟨?_, ?_⟩
  · intro h
    obtain ⟨body, footer, rfl⟩ := exists_write_of_parse? h
    rw [parse?_write] at h
    split_ifs at h with hl
    obtain rfl := Option.some.inj h
    rw [text, body_ofBody, ofBody]
  · rintro rfl
    have hl : 64 ≤ e.body.length := by rw [length_body]; omega
    rw [text, parse?_write, dif_pos hl, ofBody_body]

theorem text_injective : Function.Injective text := by
  intro e e' h
  have := parse?_eq_some_iff.2 h
  rw [parse?_eq_some_iff.2 rfl] at this
  exact Option.some.inj this

theorem parse?_eq_none_iff {token : String} : parse? token = none ↔ ¬ HasLayout token := by
  refine ⟨?_, ?_⟩
  · rintro h ⟨body, footer, hl, rfl⟩
    rw [parse?_write, dif_pos hl] at h
    simp at h
  · intro h
    rcases he : parse? token with _ | e
    · rfl
    · refine absurd ⟨e.body, e.footer, ?_, parse?_eq_some_iff.1 he⟩ h
      rw [length_body]
      omega

end Envelope

theorem Keys.apply_apply (keys : Keys) (message : Octets) :
    keys.apply (keys.apply message) = message := by
  simp [Keys.apply]

/-- The parts of the token around a message. -/
def sealed (key : DerivedKey) (nonce : Block 32) (message footer implicit : Octets) : Envelope :=
  let keys := Keys.ofNonce key nonce
  let masked := keys.apply message
  { nonce, masked, tag := keys.tag nonce masked footer implicit, footer }

theorem encode_eq_text (key : DerivedKey) (nonce : Block 32) (message footer implicit : Octets) :
    encode key nonce message footer implicit = (sealed key nonce message footer implicit).text :=
  rfl

theorem encode_inj {key : DerivedKey} {implicit : Octets} {nonce nonce' : Block 32}
    {message message' footer footer' : Octets} :
    encode key nonce message footer implicit = encode key nonce' message' footer' implicit
      ↔ nonce = nonce' ∧ message = message' ∧ footer = footer' := by
  refine ⟨?_, ?_⟩
  · intro h
    rw [encode_eq_text, encode_eq_text] at h
    have hs := Envelope.text_injective h
    simp only [sealed, Envelope.mk.injEq] at hs
    obtain ⟨rfl, hm, -, rfl⟩ := hs
    refine ⟨rfl, ?_, rfl⟩
    rw [← Keys.apply_apply (Keys.ofNonce key nonce) message, hm, Keys.apply_apply]
  · rintro ⟨rfl, rfl, rfl⟩
    rfl

/-- A text that is no token by its layout is malformed, and no other is. -/
theorem decode_of_not_hasLayout {key : DerivedKey} {token : String} {implicit : Octets}
    (h : ¬ HasLayout token) : decode key token implicit = .error .malformed := by
  simp only [decode, Envelope.parse?_eq_none_iff.2 h]

theorem decode_text (key : DerivedKey) (e : Envelope) (implicit : Octets) :
    decode key e.text implicit =
      let keys := Keys.ofNonce key e.nonce
      if keys.tag e.nonce e.masked e.footer implicit = e.tag then .ok (keys.apply e.masked)
      else .error .authentication := by
  simp only [decode, Envelope.parse?_eq_some_iff.2 rfl]

/-- What is sealed opens again. -/
theorem decode_encode (key : DerivedKey) (nonce : Block 32) (message footer implicit : Octets) :
    decode key (encode key nonce message footer implicit) implicit = .ok message := by
  rw [encode_eq_text, decode_text]
  simp only [sealed, if_true, Keys.apply_apply]

/-- What opens was sealed. -/
theorem exists_encode_of_decode {key : DerivedKey} {token : String} {implicit message : Octets}
    (h : decode key token implicit = .ok message) :
    ∃ nonce footer, token = encode key nonce message footer implicit := by
  rcases he : Envelope.parse? token with _ | e
  · rw [decode, he] at h
    cases h
  · obtain rfl := Envelope.parse?_eq_some_iff.1 he
    rw [decode_text] at h
    simp only [] at h
    split_ifs at h with ht
    obtain rfl := Except.ok.inj h
    obtain ⟨nonce, masked, tag, footer⟩ := e
    refine ⟨nonce, footer, ?_⟩
    simp only at ht
    rw [encode_eq_text, sealed, Keys.apply_apply, ht]

theorem decode_eq_ok_iff {key : DerivedKey} {token : String} {implicit message : Octets} :
    decode key token implicit = .ok message ↔
      ∃ nonce footer, token = encode key nonce message footer implicit := by
  refine ⟨exists_encode_of_decode, ?_⟩
  rintro ⟨nonce, footer, rfl⟩
  exact decode_encode key nonce message footer implicit

/-- Why a text does not open: it is no token by its layout, or it is one that nobody sealed. -/
theorem decode_eq_error_iff {key : DerivedKey} {token : String} {implicit : Octets}
    {e : TokenError} :
    decode key token implicit = .error e ↔
      ¬ HasLayout token ∧ e = .malformed
        ∨ (HasLayout token ∧ ∀ nonce message footer,
            token ≠ encode key nonce message footer implicit) ∧ e = .authentication := by
  rcases hp : Envelope.parse? token with _ | env
  · have hl := Envelope.parse?_eq_none_iff.1 hp
    rw [decode_of_not_hasLayout hl]
    simp [hl, eq_comm]
  · obtain rfl := Envelope.parse?_eq_some_iff.1 hp
    have hl : HasLayout env.text := not_not.1 (mt Envelope.parse?_eq_none_iff.2 (by simp [hp]))
    have hnew : (∀ nonce message footer, env.text ≠ encode key nonce message footer implicit) ↔
        ∀ message, decode key env.text implicit ≠ .ok message := by
      simp only [ne_eq, decode_eq_ok_iff, not_exists]
      exact forall_comm
    rw [hnew, decode_text]
    simp only []
    split_ifs <;> simp [hl, eq_comm]

/-- Issuing a token and opening it gives the claims as they are written, unless the source of the
nonce fails. -/
theorem decode_issue {ρ : Type} (R : RandomSource ρ) (key : DerivedKey) (c : Claims)
    (implicit : Octets) (r : ρ) :
    (issue R key c implicit r).1.bind (decode key · implicit) =
      match (R.fill 32 r).1 with
      | .ok _ => .ok (Octets.ofString c.toJson)
      | .error why => .error (.creation ("nonce generation: " ++ why)) := by
  unfold issue
  rcases R.fill 32 r with ⟨why | nonce, r'⟩
  · rfl
  · exact decode_encode key nonce _ [] implicit

end DeviceAuth.Token

namespace DeviceAuth.Checked

/-! ## No keyed hash refuses its key -/

theorem mac_of_block {n : Nat} (hn : n ≤ 64) (key : Block 32) (message : Octets) :
    mac n hn key.octets message = .ok (Crypto.Blake2b.mac n hn key.octets message) := by
  unfold mac
  rw [if_pos]
  rw [key.length_octets]
  omega

theorem keysOfNonce_eq (key : DerivedKey) (nonce : Block 32) :
    keysOfNonce key nonce = .ok (Token.Keys.ofNonce key nonce) := by
  unfold keysOfNonce
  rw [mac_of_block, mac_of_block]
  rfl

theorem encode_eq (key : DerivedKey) (nonce : Block 32) (message footer implicit : Octets) :
    encode key nonce message footer implicit
      = .ok (Token.encode key nonce message footer implicit) := by
  unfold encode
  rw [keysOfNonce_eq]
  simp only [bind, Except.bind, mac_of_block]
  rfl

theorem decode_eq (key : DerivedKey) (token : String) (implicit : Octets) :
    decode key token implicit = Token.decode key token implicit := by
  unfold decode Token.decode
  rcases Token.Envelope.parse? token with _ | e
  · rfl
  · simp only [keysOfNonce_eq, Except.mapError, bind, Except.bind, mac_of_block]
    rfl

end DeviceAuth.Checked

namespace DeviceAuth.Token

theorem decode_ne_keyDerivation (key : DerivedKey) (token : String) (implicit : Octets)
    (why : String) : decode key token implicit ≠ .error (.keyDerivation why) := by
  intro h
  rcases decode_eq_error_iff.1 h with ⟨-, he⟩ | ⟨-, he⟩ <;> cases he

theorem Keys.mask_append_maskNonce (key : DerivedKey) (nonce : Block 32) :
    (Keys.ofNonce key nonce).mask.octets ++ (Keys.ofNonce key nonce).maskNonce.octets
      = (Crypto.Blake2b.mac 56 (by decide) key.bytes.octets
        (Octets.ofString "paseto-encryption-key" ++ nonce.octets)).octets :=
  List.take_append_drop 32 _

/-- A tag covers how every token starts and all of the token but itself, and the assertion. -/
theorem Keys.tag_eq (keys : Keys) (nonce : Block 32) (masked footer implicit : Octets) :
    keys.tag nonce masked footer implicit =
      Crypto.Blake2b.mac 32 (by decide) keys.authentication.octets
        (frame [Octets.ofString "v4.local.", nonce.octets, masked, footer, implicit]) := by
  have hheader : String.ofList header = "v4.local." := String.ofList_toList
  rw [tag, covered, hheader]

/-- Under one key and one implicit assertion, opening accepts exactly what sealing writes, the
nonce, the masked message and the tag in base64 and then the footer, if there is one: each text
that opens is sealed from one nonce, one message and one footer. The tag is a keyed hash of the
framed pieces, and the keys of the mask and of the tag are keyed hashes of the nonce. Any other
text is malformed unless it has a token's layout, and fails to authenticate if it has; no check
of a key ever fails. So what is issued opens again. -/
theorem decode_accepts_exactly (key : DerivedKey) (implicit : Octets) :
    (∀ nonce message footer,
        let keys := Keys.ofNonce key nonce
        let masked := Octets.xor message
          (Crypto.XChaCha20.keystream keys.mask keys.maskNonce message.length)
        let tag := Crypto.Blake2b.mac 32 (by decide) keys.authentication.octets
          (frame [Octets.ofString "v4.local.", nonce.octets, masked, footer, implicit])
        keys.mask.octets ++ keys.maskNonce.octets
            = (Crypto.Blake2b.mac 56 (by decide) key.bytes.octets
              (Octets.ofString "paseto-encryption-key" ++ nonce.octets)).octets
          ∧ keys.authentication = Crypto.Blake2b.mac 32 (by decide) key.bytes.octets
            (Octets.ofString "paseto-auth-key-for-aead" ++ nonce.octets)
          ∧ encode key nonce message footer implicit = String.ofList ("v4.local.".toList
            ++ Base64.url.encode (nonce.octets ++ masked ++ tag.octets)
            ++ if footer = [] then [] else '.' :: Base64.url.encode footer))
      ∧ (∀ token message, decode key token implicit = .ok message ↔
        ∃ nonce footer, token = encode key nonce message footer implicit)
      ∧ (∀ nonce message footer nonce' message' footer',
        encode key nonce message footer implicit = encode key nonce' message' footer' implicit
          ↔ nonce = nonce' ∧ message = message' ∧ footer = footer')
      ∧ (∀ token e, decode key token implicit = .error e ↔
        ¬ HasLayout token ∧ e = .malformed
          ∨ (HasLayout token ∧ ∀ nonce message footer,
              token ≠ encode key nonce message footer implicit) ∧ e = .authentication)
      ∧ (∀ token, Checked.decode key token implicit = decode key token implicit
        ∧ ∀ why, Checked.decode key token implicit ≠ .error (.keyDerivation why))
      ∧ ∀ {ρ : Type} (R : RandomSource ρ) (c : Claims) (r : ρ),
        (issue R key c implicit r).1.bind (decode key · implicit) =
          match (R.fill 32 r).1 with
          | .ok _ => .ok (Octets.ofString c.toJson)
          | .error why => .error (.creation ("nonce generation: " ++ why)) := by
  refine ⟨fun nonce message footer => ⟨Keys.mask_append_maskNonce key nonce, rfl, ?_⟩,
    fun _ _ => decode_eq_ok_iff, fun _ _ _ _ _ _ => encode_inj, fun _ _ => decode_eq_error_iff,
    fun token => ⟨?_, fun why => ?_⟩, fun R c r => decode_issue R key c implicit r⟩
  · rw [← Keys.tag_eq]
    rfl
  · exact Checked.decode_eq key token implicit
  · rw [Checked.decode_eq]
    exact decode_ne_keyDerivation key token implicit why

end DeviceAuth.Token
