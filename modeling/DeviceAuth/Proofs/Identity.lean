import DeviceAuth.Proofs.Uuid
import DeviceAuth.Proofs.Verification

/-!
# Which texts name a device

A text names a device if it is the hyphenated form of a UUID of version 4, up to the case of its
letters (`IsRendering`). Two ways of finding that out agree: reading a UUID and writing it again
(`validate_eq_ok_iff`), and looking at the text place by place (`isValid_iff`). So two spellings of
one UUID differ in case at most (`same_uuid_iff`); where they do, they are names of two devices.
-/

namespace DeviceAuth

namespace DeviceId

open Uuid (group groupSizes ungroup? bytes?)

/-- The text is the hyphenated form of a UUID of version 4, up to the case of its letters. -/
def IsRendering (s : String) : Prop :=
  ∃ bytes : Block 16, Uuid.version bytes = 4 ∧ s.toLower = render bytes

variable {read : String → Option (Block 16)}

/-! ## By reading and writing again -/

theorem validate_eq_ok_iff (hread : Uuid.ReadsHyphenated read) {s : String} :
    validate read s = .ok () ↔ IsRendering s := by
  refine ⟨fun h => ?_, fun ⟨bytes, hv, hs⟩ => ?_⟩
  · unfold validate at h
    split at h
    · cases h
    · rename_i bytes _
      split_ifs at h with hs hv
      rw [Uuid.toLower_render, not_not] at hs
      exact ⟨bytes, not_not.1 hv, hs.symm⟩
  · simp [validate, hread s bytes hs, Uuid.toLower_render, hs, hv]

/-! ## By place -/

theorem fits_append : ∀ {ps qs : List (Char → Bool)} {cs : List Char},
    fits (ps ++ qs) cs = true ↔ ∃ as bs, cs = as ++ bs ∧ fits ps as = true ∧ fits qs bs = true
  | [], qs, cs => by
    refine ⟨fun h => ⟨[], cs, rfl, rfl, h⟩, ?_⟩
    rintro ⟨as, bs, rfl, has, hbs⟩
    cases as with
    | nil => exact hbs
    | cons a as => cases has
  | p :: ps, qs, [] => by
    refine ⟨fun h => (by cases h), ?_⟩
    rintro ⟨as, bs, h, has, -⟩
    rw [(List.append_eq_nil_iff.1 h.symm).1] at has
    cases has
  | p :: ps, qs, c :: cs => by
    rw [List.cons_append, fits, Bool.and_eq_true, fits_append]
    refine ⟨?_, ?_⟩
    · rintro ⟨hc, as, bs, rfl, has, hbs⟩
      exact ⟨c :: as, bs, rfl, Bool.and_eq_true_iff.2 ⟨hc, has⟩, hbs⟩
    · rintro ⟨as, bs, h, has, hbs⟩
      cases as with
      | nil => cases has
      | cons a as =>
        obtain ⟨rfl, rfl⟩ := List.cons_eq_cons.1 h
        obtain ⟨hc, has⟩ := Bool.and_eq_true_iff.1 has
        exact ⟨hc, as, bs, rfl, has, hbs⟩

theorem fits_cons {p : Char → Bool} {ps : List (Char → Bool)} {cs : List Char} :
    fits (p :: ps) cs = true ↔ ∃ c ds, cs = c :: ds ∧ p c = true ∧ fits ps ds = true := by
  cases cs with
  | nil => simp [fits]
  | cons c cs => simp [fits]

theorem fits_replicate {p : Char → Bool} : ∀ {n : Nat} {cs : List Char},
    fits (List.replicate n p) cs = true ↔ cs.length = n ∧ ∀ c ∈ cs, p c = true
  | 0, [] => by simp [fits]
  | 0, _ :: _ => by simp [fits]
  | n + 1, [] => by simp [fits, List.replicate_succ]
  | n + 1, c :: cs => by
    rw [List.replicate_succ, fits, Bool.and_eq_true, fits_replicate, List.length_cons,
      List.forall_mem_cons, Nat.add_right_cancel_iff]
    exact and_left_comm

theorem length_of_fits : ∀ {ps : List (Char → Bool)} {cs : List Char},
    fits ps cs = true → cs.length = ps.length
  | [], [], _ => rfl
  | _ :: _, _ :: _, h => congrArg (· + 1) (length_of_fits (Bool.and_eq_true_iff.1 h).2)

/-- What may stand at the places of groups is grouped as what stands there is: a text that fits
is as long as its places, so both are cut at the same points. -/
theorem fits_group : ∀ {sizes : List Nat} {ps : List (Char → Bool)} {cs : List Char},
    ps.length = sizes.sum → (fits (group (· == '-') sizes ps) cs = true
      ↔ ∃ ds, cs = group '-' sizes ds ∧ fits ps ds = true)
  | [], ps, cs, h => by
    obtain rfl := List.eq_nil_of_length_eq_zero h
    cases cs with
    | nil => exact ⟨fun _ => ⟨[], rfl, rfl⟩, fun _ => rfl⟩
    | cons c cs => simp [group, fits]
  | [size], ps, cs, _ => by simp [group]
  | size :: next :: sizes, ps, cs, h => by
    rw [List.sum_cons] at h
    obtain ⟨ps, qs, rfl, hps⟩ := Uuid.exists_append_of_le (show size ≤ ps.length by omega)
    have hqs : qs.length = (next :: sizes).sum := by
      rw [List.length_append] at h
      omega
    rw [Uuid.group_append _ hps, fits_append]
    simp only [fits_cons, fits_group hqs, fits_append, beq_iff_eq]
    refine ⟨?_, ?_⟩
    · rintro ⟨as, _, rfl, has, _, _, rfl, rfl, ds, rfl, hds⟩
      have hlen : as.length = size := (length_of_fits has).trans hps
      exact ⟨as ++ ds, (Uuid.group_append '-' hlen next sizes ds).symm, as, ds, rfl, has, hds⟩
    · rintro ⟨_, rfl, as, ds, rfl, has, hds⟩
      have hlen : as.length = size := (length_of_fits has).trans hps
      exact ⟨as, _, Uuid.group_append '-' hlen next sizes ds, has, '-', _, rfl, rfl, ds, rfl, hds⟩

/-- What may stand at the places of an identity but for its hyphens. -/
def places : List (Char → Bool) :=
  List.replicate 12 Hex.isDigit ++ (· == '4') :: List.replicate 19 Hex.isDigit

theorem fits_places_iff {ds : List Char} : fits places ds = true
    ↔ ∃ bytes : Block 16, bytes? ds = some bytes.octets ∧ Uuid.version bytes = 4 := by
  refine ⟨fun h => ?_, ?_⟩
  · obtain ⟨as, _, rfl, has, h⟩ := fits_append.1 h
    obtain ⟨c, bs, rfl, hc, hbs⟩ := fits_cons.1 h
    obtain ⟨hlen, has⟩ := fits_replicate.1 has
    obtain ⟨hlen', hbs⟩ := fits_replicate.1 hbs
    obtain rfl : c = '4' := eq_of_beq hc
    have hdigits : ∀ d ∈ as ++ '4' :: bs, Hex.isDigit d = true := by
      simp only [List.forall_mem_append, List.forall_mem_cons]
      exact ⟨has, rfl, hbs⟩
    obtain ⟨octets, hoctets, hn⟩ := Uuid.exists_bytes? 16
      (by rw [List.length_append, List.length_cons, hlen, hlen']) hdigits
    refine ⟨⟨octets, hn⟩, hoctets, (Uuid.version_eq_iff (by decide)).2 ?_⟩
    rw [← Uuid.bytes?_eq_some_iff.1 hoctets, List.map_append, List.getElem?_append_right
      (by rw [List.length_map, hlen]), List.length_map, hlen]
    rfl
  · rintro ⟨bytes, hbytes, hv⟩
    have hlen : ds.length = 32 := by rw [Uuid.length_of_bytes? hbytes, bytes.length_octets]
    have h12 : 12 < ds.length := by omega
    have hversion : ds[12] = '4' := by
      have := (Uuid.version_eq_iff (by decide)).1 hv
      rw [← Uuid.bytes?_eq_some_iff.1 hbytes, List.getElem?_map,
        List.getElem?_eq_getElem h12] at this
      exact (toLower_eq_iff_of_lt (by decide)).1 (Option.some.inj this)
    have hdigits : ∀ d ∈ ds, Hex.isDigit d = true := fun d => Uuid.isDigit_of_bytes? hbytes
    rw [places, fits_append]
    refine ⟨ds.take 12, '4' :: ds.drop 13, ?_, fits_replicate.2 ⟨?_, ?_⟩,
      fits_cons.2 ⟨'4', _, rfl, rfl, fits_replicate.2 ⟨?_, ?_⟩⟩⟩
    · rw [← hversion, List.getElem_cons_drop, List.take_append_drop]
    · simp [hlen]
    · exact fun d hd => hdigits d (List.mem_of_mem_take hd)
    · simp [hlen]
    · exact fun d hd => hdigits d (List.mem_of_mem_drop hd)

theorem isValid_iff {s : String} : isValid s = true ↔ IsRendering s := by
  have hlayout : layout = group (· == '-') groupSizes places := rfl
  have hne : groupSizes ≠ [] := by simp [groupSizes]
  rw [isValid, hlayout, fits_group rfl]
  simp only [fits_places_iff, IsRendering, Uuid.toLower_eq_render_iff,
    Uuid.ungroup?_eq_some_iff hne]
  refine ⟨?_, ?_⟩
  · rintro ⟨ds, hs, bytes, hbytes, hv⟩
    have hlen : ds.length = 32 := by rw [Uuid.length_of_bytes? hbytes, bytes.length_octets]
    exact ⟨bytes, hv, ds, ⟨hlen, hs⟩, hbytes⟩
  · rintro ⟨bytes, hv, ds, ⟨-, hs⟩, hbytes⟩
    exact ⟨ds, hs, bytes, hbytes, hv⟩

/-! ## Names that are made, sent and read -/

theorem parse_eq_ok_iff {s : String} {id : DeviceId} : parse s = .ok id ↔ s = id.text := by
  rw [← parse?_eq_some_iff, parse]
  rcases parse? s with _ | other
  · simp
  · simp

theorem parse_eq_error_iff {s : String} :
    parse s = .error .invalidIdentity ↔ ¬ isValid s = true := by
  rw [parse, parse?]
  split_ifs with h
  · simp [h]
  · simp [h]

theorem credential_eq_error_iff {a : Authority} {s : String} :
    a.credential s = .error .invalidClientId ↔ ¬ isValid s = true := by
  rw [Authority.credential, parse?]
  split_ifs with h
  · simp [h]
  · simp [h]

theorem ofJson?_toJson (id : DeviceId) : ofJson? (Octets.ofString id.toJson) = some id := by
  have hscan : Json.Token.ofOctets (Octets.ofString id.toJson) = [.text (Json.raw id.text)] := by
    rw [toJson, Octets.ofString_ofList, Json.Token.ofOctets, ← List.append_nil (Octets.ofChars _),
      Json.Token.scan_quote]
    rfl
  simp only [ofJson?, Json.readText?, hscan, Json.unquote?_raw, Option.bind_eq_bind,
    Option.bind_some, parse?_text]

theorem version_stamp (bytes : Block 16) : Uuid.version (stamp bytes) = 4 := by
  have hnibble : ∀ n : Nat, (n &&& 0x0f ||| 0x40) / 2 ^ 4 = 4 := fun n => by
    have hlow : n &&& 0x0f < 2 ^ 4 := Nat.and_lt_two_pow n (by decide)
    rw [← Nat.shiftRight_eq_div_pow, Nat.shiftRight_or_distrib, Nat.shiftRight_eq_div_pow,
      Nat.div_eq_of_lt hlow]
    rfl
  have h6 : 6 < bytes.octets.length := by simp
  simp only [Uuid.version, stamp, List.getD_eq_getElem?_getD, List.getElem?_modify,
    List.getElem?_eq_getElem h6]
  exact hnibble bytes.octets[6].toNat

theorem isRendering_iff_exists {s : String} : IsRendering s ↔ ∃ id : DeviceId, id.text = s := by
  rw [← isValid_iff]
  refine ⟨fun h => ⟨⟨s, h⟩, rfl⟩, ?_⟩
  rintro ⟨id, rfl⟩
  exact id.valid

theorem generate?_eq (bytes : Block 16) :
    ∃ id, generate? bytes = some id ∧ id.text = render (stamp bytes) := by
  have hname : IsRendering (render (stamp bytes)) :=
    ⟨stamp bytes, version_stamp bytes, Uuid.toLower_render⟩
  obtain ⟨id, hid⟩ := isRendering_iff_exists.1 hname
  exact ⟨id, parse?_eq_some_iff.2 hid.symm, hid⟩

theorem isRendering_write_iff {bytes : Block 16} {form : Uuid.Form} :
    IsRendering (form.write bytes) ↔ form = .hyphenated ∧ Uuid.version bytes = 4 := by
  refine ⟨?_, ?_⟩
  · rintro ⟨other, hv, hlower⟩
    have hform : form = .hyphenated := by
      rw [← Uuid.length_write_eq_iff, ← Uuid.length_render other, ← hlower, toList_toLower,
        List.length_map]
    have hother : other = bytes := by
      have := Uuid.parse?_of_toLower hlower
      rw [Uuid.parse?_write] at this
      exact (Option.some.inj this).symm
    exact ⟨hform, hother ▸ hv⟩
  · rintro ⟨rfl, hv⟩
    exact ⟨bytes, hv, Uuid.toLower_render⟩

/-- What names a device is exactly the hyphenated form of a UUID of version 4, letters in either
case, whatever else a reader takes for a UUID, as `Uuid.parse?` does all forms. Whoever parses a
name, reads it from JSON or asks for a credential by it accepts just these texts and keeps their
spelling; a name written as JSON is read as itself, and any random bytes make a name. -/
theorem named_by_v4_renderings (hread : Uuid.ReadsHyphenated read) :
    (∀ s, validate read s = .ok () ↔ IsRendering s)
      ∧ (∀ (bytes : Block 16) (form : Uuid.Form), Uuid.parse? (form.write bytes) = some bytes
        ∧ (validate read (form.write bytes) = .ok ()
          ↔ form = .hyphenated ∧ Uuid.version bytes = 4))
      ∧ (∀ s, IsRendering s ↔ ∃ id : DeviceId, id.text = s)
      ∧ (∀ s id, parse s = .ok id ↔ id.text = s)
      ∧ (∀ bs id, ofJson? bs = some id ↔ Json.readText? bs = some id.text)
      ∧ (∀ (a : Authority) s c,
        a.credential s = .ok c ↔ c.device.text = s ∧ c.root = a.deviceRoot c.device)
      ∧ (∀ s, parse s = .error .invalidIdentity ↔ ¬ IsRendering s)
      ∧ (∀ (a : Authority) s, a.credential s = .error .invalidClientId ↔ ¬ IsRendering s)
      ∧ (∀ id, ofJson? (Octets.ofString id.toJson) = some id)
      ∧ ∀ bytes, ∃ id, generate? bytes = some id ∧ id.text = render (stamp bytes) := by
  refine ⟨fun s => validate_eq_ok_iff hread,
    fun bytes form => ⟨Uuid.parse?_write form,
      (validate_eq_ok_iff hread).trans isRendering_write_iff⟩,
    fun s => isRendering_iff_exists, fun s id => parse_eq_ok_iff.trans eq_comm,
    fun bs id => ?_, fun a s c => ?_, fun s => ?_, fun a s => ?_, ofJson?_toJson, generate?_eq⟩
  · simp only [ofJson?, Option.bind_eq_bind, Option.bind_eq_some_iff, parse?_eq_some_iff,
      exists_eq_right]
  · rw [Authority.credential_eq_ok_iff, eq_comm]
  · rw [parse_eq_error_iff, isValid_iff]
  · rw [credential_eq_error_iff, isValid_iff]

theorem named_in_upper_case_but_not_as_urn :
    let bytes : Block 16 := ⟨[0x55, 0x0e, 0x84, 0x00, 0xe2, 0x9b, 0x41, 0xd4, 0xa7, 0x16, 0x44,
      0x66, 0x55, 0x44, 0x00, 0x00], rfl⟩
    Uuid.ReadsHyphenated Uuid.parse?
      ∧ validate Uuid.parse? "550E8400-E29B-41D4-A716-446655440000" = .ok ()
      ∧ Uuid.parse? (Uuid.Form.urn.write bytes) = some bytes
      ∧ validate Uuid.parse? (Uuid.Form.urn.write bytes) ≠ .ok () := by
  intro bytes
  have hread := Uuid.readsHyphenated_parse?
  obtain ⟨haccepts, hforms, -⟩ := named_by_v4_renderings hread
  have hupper : isValid "550E8400-E29B-41D4-A716-446655440000" = true := by decide +kernel
  refine ⟨hread, (haccepts _).2 (isValid_iff.1 hupper), (hforms bytes .urn).1, fun h => ?_⟩
  cases ((hforms bytes .urn).2.1 h).1

/-! ## Spellings of one device -/

theorem validate_text (hread : Uuid.ReadsHyphenated read) (id : DeviceId) :
    validate read id.text = .ok () :=
  (validate_eq_ok_iff hread).2 (isValid_iff.1 id.valid)

theorem read_eq_some_iff (hread : Uuid.ReadsHyphenated read) {s : String} (hs : IsRendering s)
    {bytes : Block 16} : read s = some bytes ↔ s.toLower = render bytes := by
  refine ⟨fun h => ?_, hread s bytes⟩
  obtain ⟨other, -, hlower⟩ := hs
  rw [hread s other hlower] at h
  rw [hlower, Option.some.inj h]

theorem same_uuid_iff (hread : Uuid.ReadsHyphenated read) {s t : String} (hs : IsRendering s)
    (ht : IsRendering t) : (∃ bytes, read s = some bytes ∧ read t = some bytes)
      ↔ s.toLower = t.toLower := by
  simp only [read_eq_some_iff hread hs, read_eq_some_iff hread ht]
  refine ⟨?_, fun h => ?_⟩
  · rintro ⟨bytes, hs', ht'⟩
    rw [hs', ht']
  · obtain ⟨bytes, -, hlower⟩ := hs
    exact ⟨bytes, hlower, h ▸ hlower⟩

theorem octets_eq_iff {id other : DeviceId} :
    id.octets = other.octets ↔ id.text = other.text :=
  Octets.ofString_injective.eq_iff

theorem ofDevices_congr_iff {id other : DeviceId} :
    (∀ devices, Registry.ofDevices devices id = Registry.ofDevices devices other)
      ↔ id.text = other.text := by
  refine ⟨fun h => ?_, fun h devices => by rw [DeviceId.ext h]⟩
  have hone := h [id]
  simp only [Registry.ofDevices, List.contains_cons, List.contains_nil, beq_self_eq_true,
    Bool.or_false, Except.ok.injEq] at hone
  rw [eq_of_beq hone.symm]

/-- What a device's root is derived from, beside the authority's. -/
def rootInfo (s : String) : Octets := Octets.ofString ("client.root.v1." ++ s)

theorem deviceRoot_eq (a : Authority) (id : DeviceId) :
    a.deviceRoot id = ⟨Crypto.hkdf a.root.bytes.octets (rootInfo id.text)⟩ := rfl

theorem rootInfo_injective : Function.Injective rootInfo := by
  intro s t h
  have := Octets.ofString_injective h
  rw [← String.toList_inj, String.toList_append, String.toList_append] at this
  exact String.toList_inj.1 (List.append_cancel_left this)

/-- Two names stand for one UUID if and only if they are the same up to the case of their letters.
Different spellings are different devices: they stand in tokens as different bytes, some registry
knows only one of them, and their roots are derived from different texts. -/
theorem one_spelling_up_to_case (hread : Uuid.ReadsHyphenated read) {s t : String}
    (hs : validate read s = .ok ()) (ht : validate read t = .ok ()) :
    ((∃ bytes, read s = some bytes ∧ read t = some bytes) ↔ s.toLower = t.toLower)
      ∧ ∃ id other, parse s = .ok id ∧ parse t = .ok other
        ∧ (id.octets = other.octets ↔ s = t)
        ∧ ((∀ devices, Registry.ofDevices devices id = Registry.ofDevices devices other)
          ↔ s = t)
        ∧ ∃ info info', (info = info' ↔ s = t) ∧ ∀ a : Authority,
          a.deviceRoot id = ⟨Crypto.hkdf a.root.bytes.octets info⟩
            ∧ a.deviceRoot other = ⟨Crypto.hkdf a.root.bytes.octets info'⟩ := by
  rw [validate_eq_ok_iff hread] at hs ht
  have hsame := same_uuid_iff hread hs ht
  obtain ⟨id, rfl⟩ := isRendering_iff_exists.1 hs
  obtain ⟨other, rfl⟩ := isRendering_iff_exists.1 ht
  exact ⟨hsame, id, other, parse_eq_ok_iff.2 rfl, parse_eq_ok_iff.2 rfl,
    octets_eq_iff, ofDevices_congr_iff, rootInfo id.text, rootInfo other.text,
    rootInfo_injective.eq_iff, fun a => ⟨deviceRoot_eq a id, deviceRoot_eq a other⟩⟩

theorem one_spelling_in_mixed_case :
    Uuid.ReadsHyphenated Uuid.parse?
      ∧ validate Uuid.parse? "F47AC10B-58cc-4372-A567-0e02b2c3d479" = .ok ()
      ∧ validate Uuid.parse? "f47ac10b-58cc-4372-a567-0e02b2c3d479" = .ok ()
      ∧ (∃ bytes, Uuid.parse? "F47AC10B-58cc-4372-A567-0e02b2c3d479" = some bytes
        ∧ Uuid.parse? "f47ac10b-58cc-4372-a567-0e02b2c3d479" = some bytes)
      ∧ ∃ id other, parse "F47AC10B-58cc-4372-A567-0e02b2c3d479" = .ok id
        ∧ parse "f47ac10b-58cc-4372-a567-0e02b2c3d479" = .ok other
        ∧ id.octets ≠ other.octets := by
  have hread := Uuid.readsHyphenated_parse?
  have hs := validate_text hread ⟨"F47AC10B-58cc-4372-A567-0e02b2c3d479", by decide +kernel⟩
  have ht := validate_text hread ⟨"f47ac10b-58cc-4372-a567-0e02b2c3d479", by decide +kernel⟩
  have hlower := toLower_eq_toLower_iff.2 (show
    "F47AC10B-58cc-4372-A567-0e02b2c3d479".toList.map Char.toLower
      = "f47ac10b-58cc-4372-a567-0e02b2c3d479".toList.map Char.toLower by decide +kernel)
  obtain ⟨hsame, id, other, hid, hother, hoctets, -⟩ := one_spelling_up_to_case hread hs ht
  exact ⟨hread, hs, ht, hsame.2 hlower, id, other, hid, hother, hoctets.not.2 (by decide)⟩

/-- One UUID names two devices, in lower and in upper case. -/
theorem two_spellings_of_one_device :
    ∃ id other : DeviceId, id.text = "550e8400-e29b-41d4-a716-446655440000"
      ∧ other.text = "550E8400-E29B-41D4-A716-446655440000"
      ∧ validate Uuid.parse? id.text = .ok () ∧ validate Uuid.parse? other.text = .ok ()
      ∧ Uuid.parse? id.text = Uuid.parse? other.text ∧ id.text ≠ other.text
      ∧ id.octets ≠ other.octets
      ∧ Registry.ofDevices [id] id = .ok true ∧ Registry.ofDevices [id] other = .ok false
      ∧ ∃ a, Authority.ofSeed (List.replicate 32 0) = .ok a
        ∧ a.deviceRoot id ≠ a.deviceRoot other := by
  have hread := Uuid.readsHyphenated_parse?
  have hs : isValid "550e8400-e29b-41d4-a716-446655440000" = true := by decide +kernel
  have ht : isValid "550E8400-E29B-41D4-A716-446655440000" = true := by decide +kernel
  obtain ⟨bytes, h, h'⟩ := (same_uuid_iff hread (isValid_iff.1 hs) (isValid_iff.1 ht)).2
    (toLower_eq_toLower_iff.2 (by decide +kernel))
  refine ⟨⟨_, by decide +kernel⟩, ⟨_, by decide +kernel⟩, rfl, rfl, validate_text hread _,
    validate_text hread _, h.trans h'.symm, ?_, ?_, ?_, ?_, ?_⟩
  · decide
  · exact octets_eq_iff.not.2 (by decide)
  · exact congrArg Except.ok (by decide +kernel)
  · exact congrArg Except.ok (by decide +kernel)
  · exact ⟨_, rfl, by decide +kernel⟩

end DeviceId

end DeviceAuth
