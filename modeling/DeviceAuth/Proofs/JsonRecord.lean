import Mathlib.Tactic.Common
import DeviceAuth.Proofs.JsonText
import DeviceAuth.Json.Record

/-!
# Objects of texts read as records

An object of texts scans as its members between commas (`ofOctets_object`), so no two lists of
members are written alike (`object_injective`). Where all its members are known and none comes
twice, a record reads them one after another: it is what the values make up, or malformed at the
first value that is not wanted (`read_object`).
-/

namespace DeviceAuth.Json

open Octets (ofChars)

/-- The tokens of one member. -/
def memberTokens (m : String × String) : List Token :=
  [.text (raw m.1), .colon, .text (raw m.2)]

/-- The tokens of members after the first, each behind a comma. -/
def furtherTokens (ms : List (String × String)) : List Token :=
  ms.flatMap fun m => .comma :: memberTokens m

/-- The tokens of members. -/
def membersTokens : List (String × String) → List Token
  | [] => []
  | m :: ms => memberTokens m ++ furtherTokens ms

theorem flatten_intersperse {α β : Type} (f : α → List β) (sep : List β) (a : α) :
    ∀ as : List α, (((a :: as).map f).intersperse sep).flatten
      = f a ++ as.flatMap fun a => sep ++ f a
  | [] => by simp
  | b :: as => by
    have ih := flatten_intersperse f sep b as
    rw [List.map_cons] at ih
    rw [List.map_cons, List.map_cons, List.intersperse_cons_cons, List.flatten_cons,
      List.flatten_cons, ih]
    simp

/-! ## Scanning -/

namespace Token

theorem scan_colon (rest : Octets) :
    scan .between (ofChars [':'] ++ rest) = .colon :: scan .between rest := rfl

theorem scan_comma (rest : Octets) :
    scan .between (ofChars [','] ++ rest) = .comma :: scan .between rest := rfl

/-- The members of an object, however one of them is written. -/
theorem scan_members {member : String × String → List Char}
    (hm : ∀ m rest, scan .between (ofChars (member m) ++ rest)
      = memberTokens m ++ scan .between rest) (rest : Octets) :
    ∀ ms : List (String × String),
      scan .between (ofChars ((ms.map member).intersperse [',']).flatten ++ rest)
        = membersTokens ms ++ scan .between rest
  | [] => rfl
  | m :: ms => by
    have further : ∀ ms : List (String × String),
        scan .between (ofChars (ms.flatMap fun m => [','] ++ member m) ++ rest)
          = furtherTokens ms ++ scan .between rest := by
      intro ms
      induction ms with
      | nil => rfl
      | cons m ms ih =>
        rw [List.flatMap_cons, Octets.ofChars_append, Octets.ofChars_append, List.append_assoc,
          List.append_assoc, scan_comma, hm, ih]
        simp [furtherTokens]
    rw [flatten_intersperse, Octets.ofChars_append, List.append_assoc, hm, further, membersTokens,
      List.append_assoc]

theorem ofOctets_object (ms : List (String × String)) :
    ofOctets (ofChars (object ms)) = .openObject :: (membersTokens ms ++ [.closeObject]) := by
  have hm : ∀ (m : String × String) rest,
      scan .between (ofChars (quote m.1 ++ ':' :: quote m.2) ++ rest)
        = memberTokens m ++ scan .between rest := by
    intro m rest
    rw [← List.singleton_append, Octets.ofChars_append, Octets.ofChars_append, List.append_assoc,
      List.append_assoc, scan_quote, scan_colon, scan_quote]
    rfl
  have ho : ∀ rest : Octets, scan .between (ofChars ['\x7b'] ++ rest)
      = .openObject :: scan .between rest := fun _ => rfl
  rw [ofOctets, object, ← List.singleton_append, List.append_assoc, Octets.ofChars_append, ho,
    Octets.ofChars_append, scan_members hm]
  rfl

end Token

/-! ## No two objects look the same -/

theorem raw_injective : Function.Injective raw := by
  intro s t h
  have ht := unquote?_raw t
  rw [← h, unquote?_raw] at ht
  exact Option.some.inj ht

theorem furtherTokens_injective : Function.Injective furtherTokens
  | [], [], _ => rfl
  | [], _ :: _, h => by simp [furtherTokens] at h
  | _ :: _, [], h => by simp [furtherTokens] at h
  | m :: ms, n :: ns, h => by
    simp only [furtherTokens, memberTokens, List.flatMap_cons, List.cons_append, List.nil_append,
      List.cons.injEq, Token.text.injEq, true_and] at h
    obtain ⟨hname, hvalue, hrest⟩ := h
    rw [Prod.ext (raw_injective hname) (raw_injective hvalue), furtherTokens_injective hrest]

theorem object_injective : Function.Injective object := by
  intro ms ns h
  have htokens : membersTokens ms = membersTokens ns := by
    have hof := congrArg (fun cs => Token.ofOctets (ofChars cs)) h
    simp only [Token.ofOctets_object, List.cons.injEq, true_and] at hof
    exact List.append_cancel_right hof
  rcases ms with _ | ⟨m, ms⟩ <;> rcases ns with _ | ⟨n, ns⟩
  · rfl
  · simp [membersTokens, memberTokens] at htokens
  · simp [membersTokens, memberTokens] at htokens
  · exact furtherTokens_injective (congrArg (List.cons Token.comma) htokens)

/-! ## Reading -/

namespace Schema

variable {α β : Type} (S : Schema α β)

/-- The values of members, if all are wanted. -/
def values? (ms : List (String × String)) : Option (List (String × α)) :=
  ms.mapM fun m => (S.value? m.2).map (m.1, ·)

theorem member_raw {found : List (String × α)} {name : String} (hn : name ∈ S.fields)
    (hf : found.lookup name = none) : S.member found (raw name) = .ok (some name) := by
  rw [member, unquote?_raw]
  simp [hn, hf]

theorem readMembers_member {found : List (String × α)} {place : Place}
    (hp : place = .afterOpen ∨ place = .afterComma) {m : String × String} (hn : m.1 ∈ S.fields)
    (hf : found.lookup m.1 = none) (ts : List Token) :
    S.readMembers found place (memberTokens m ++ ts) =
      match S.value? m.2 with
      | some v => S.readMembers ((m.1, v) :: found) .afterValue ts
      | none => .error .malformed := by
  have hv : unquote? (raw m.2) >>= S.value? = S.value? m.2 := by
    rw [unquote?_raw]
    rfl
  rcases hw : S.value? m.2 with _ | v <;> rcases hp with rfl | rfl <;>
    simp only [memberTokens, List.cons_append, List.nil_append, readMembers, S.member_raw hn hf, hv,
      hw]

/-- Members that are known, of which none comes twice and none has been found. -/
structure New (found : List (String × α)) (ms : List (String × String)) : Prop where
  known : ∀ m ∈ ms, m.1 ∈ S.fields
  nodup : (ms.map (·.1)).Nodup
  new : ∀ m ∈ ms, found.lookup m.1 = none

theorem New.tail {found : List (String × α)} {m : String × String} {ms : List (String × String)}
    (h : S.New found (m :: ms)) (v : α) : S.New ((m.1, v) :: found) ms where
  known m' hm' := h.known m' (List.mem_cons_of_mem _ hm')
  nodup := (List.nodup_cons.1 h.nodup).2
  new m' hm' := by
    have hne : m'.1 ≠ m.1 := fun he =>
      (List.nodup_cons.1 h.nodup).1 (List.mem_map.2 ⟨m', hm', he⟩)
    rw [List.lookup_cons, beq_eq_false_iff_ne.2 hne]
    exact h.new m' (List.mem_cons_of_mem _ hm')

/-- What reading the members and the end of the object comes to. -/
def outcome (found : List (String × α)) (ms : List (String × String)) : Except Fault β :=
  match S.values? ms with
  | some vs => S.finish (vs.reverse ++ found)
  | none => .error .malformed

theorem outcome_cons (found : List (String × α)) (m : String × String)
    (ms : List (String × String)) :
    S.outcome found (m :: ms) =
      match S.value? m.2 with
      | some v => S.outcome ((m.1, v) :: found) ms
      | none => .error .malformed := by
  simp only [outcome, values?, List.mapM_cons]
  rcases S.value? m.2 with _ | v
  · rfl
  · rcases hs : ms.mapM fun m => (S.value? m.2).map (m.1, ·) with _ | vs
    · simp [hs]
    · simp [hs]

theorem readMembers_further : ∀ (ms : List (String × String)) (found : List (String × α)),
    S.New found ms →
      S.readMembers found .afterValue (furtherTokens ms ++ [.closeObject]) = S.outcome found ms
  | [], found, _ => by
    simp only [furtherTokens, List.flatMap_nil, List.nil_append, readMembers, outcome, values?,
      List.mapM_nil, if_true]
    rcases h : S.finish found with e | r <;> simp [h]
    · rfl
    · rfl
  | m :: ms, found, h => by
    have ih := fun v => readMembers_further ms ((m.1, v) :: found) (h.tail S v)
    rw [furtherTokens, List.flatMap_cons, List.append_assoc, List.cons_append, readMembers,
      S.readMembers_member (.inr rfl) (h.known m List.mem_cons_self)
        (h.new m List.mem_cons_self), outcome_cons]
    rcases S.value? m.2 with _ | v
    · rfl
    · exact ih v

/-- An object of known members is read member by member. -/
theorem read_object {ms : List (String × String)} (h : S.New [] ms) :
    S.read (Octets.ofString (String.ofList (object ms))) = S.outcome [] ms := by
  rw [Octets.ofString_ofList, read, Token.ofOctets_object]
  rcases ms with _ | ⟨m, ms⟩
  · exact S.readMembers_further [] [] h
  · simp only [membersTokens, List.append_assoc]
    rw [S.readMembers_member (.inl rfl) (h.known m List.mem_cons_self) rfl, outcome_cons]
    rcases S.value? m.2 with _ | v
    · rfl
    · exact S.readMembers_further ms _ (h.tail S v)

end Schema

end DeviceAuth.Json
