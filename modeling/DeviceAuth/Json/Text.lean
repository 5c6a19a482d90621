import DeviceAuth.Json.Token

/-!
# JSON strings

A text between quotes (`quote`), objects of such texts (`object`), and the text that a string's
bytes stand for (`unquote?`). Only what has to be escaped is; reading takes every escape, a pair of
surrogates for one character, and refuses lone surrogates and bytes that are not UTF-8.
-/

namespace DeviceAuth.Json

/-- A character as it stands in a string. -/
def escape (c : Char) : List Char :=
  if c = '"' then ['\\', '"']
  else if c = '\\' then ['\\', '\\']
  else if c = '\x08' then ['\\', 'b']
  else if c = '\x0c' then ['\\', 'f']
  else if c = '\n' then ['\\', 'n']
  else if c = '\r' then ['\\', 'r']
  else if c = '\t' then ['\\', 't']
  else if c.toNat < 0x20 then
    ['\\', 'u', '0', '0', Hex.digit (c.toNat / 16), Hex.digit (c.toNat % 16)]
  else [c]

/-- A text between quotes. -/
def quote (s : String) : List Char := '"' :: s.toList.flatMap escape ++ ['"']

/-- An object of texts, on one line without spaces. -/
def object (members : List (String × String)) : List Char :=
  let member := fun (name, value) => quote name ++ ':' :: quote value
  '\x7b' :: ((members.map member).intersperse [',']).flatten ++ ['\x7d']

/-- An object of texts, a member to a line. -/
def objectLines (members : List (String × String)) : List Char :=
  let member := fun (name, value) => "\n  ".toList ++ quote name ++ ": ".toList ++ quote value
  '\x7b' :: ((members.map member).intersperse [',']).flatten ++ ['\n', '\x7d']

/-- What a string is made of once its escapes are taken apart. -/
inductive Piece
  | octet (b : UInt8)
  /-- A code unit of sixteen bits. -/
  | codeUnit (n : Nat)

/-- The byte a letter after a backslash stands for. -/
def escaped? (c : Char) : Option UInt8 :=
  match c with
  | '"' => some 0x22
  | '\\' => some 0x5c
  | '/' => some 0x2f
  | 'b' => some 0x08
  | 'f' => some 0x0c
  | 'n' => some 0x0a
  | 'r' => some 0x0d
  | 't' => some 0x09
  | _ => none

/-- The pieces of a string as it stands between its quotes. -/
def pieces? : Octets → Option (List Piece)
  | [] => some []
  | b :: bs =>
    if Char.ofUInt8 b ≠ '\\' then (pieces? bs).map (.octet b :: ·)
    else
      match bs with
      | [] => none
      | e :: bs =>
        match escaped? (Char.ofUInt8 e) with
        | some c => (pieces? bs).map (.octet c :: ·)
        | none =>
          if Char.ofUInt8 e ≠ 'u' then none
          else
            match bs with
            | h₃ :: h₂ :: h₁ :: h₀ :: bs => do
              let n₃ ← Hex.value? (Char.ofUInt8 h₃)
              let n₂ ← Hex.value? (Char.ofUInt8 h₂)
              let n₁ ← Hex.value? (Char.ofUInt8 h₁)
              let n₀ ← Hex.value? (Char.ofUInt8 h₀)
              let rest ← pieces? bs
              some (.codeUnit (((n₃ * 16 + n₂) * 16 + n₁) * 16 + n₀) :: rest)
            | _ => none

/-- The bytes that the pieces make up. -/
def assemble? : List Piece → Option Octets
  | [] => some []
  | .octet b :: ps => (assemble? ps).map (b :: ·)
  | .codeUnit n :: ps =>
    if n < 0xd800 ∨ 0xe000 ≤ n then
      (assemble? ps).map (String.utf8EncodeChar (Char.ofNat n) ++ ·)
    else if 0xdc00 ≤ n then none
    else
      match ps with
      | .codeUnit m :: ps =>
        if 0xdc00 ≤ m ∧ m < 0xe000 then
          let c := Char.ofNat (0x10000 + (n - 0xd800) * 0x400 + (m - 0xdc00))
          (assemble? ps).map (String.utf8EncodeChar c ++ ·)
        else none
      | _ => none

/-- The text of a string as it stands between its quotes. -/
def unquote? (raw : Octets) : Option String := do
  let bytes ← assemble? (← pieces? raw)
  Octets.text? bytes

end DeviceAuth.Json
