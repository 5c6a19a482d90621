import DeviceAuth.Text.Hex

/-!
# TOML texts

The four kinds of strings of TOML 1.0, and the keys built from them. A reader takes the characters
from some place on and answers with what it read and the characters after it.
-/

namespace DeviceAuth.Toml

/-- A reader of some kind of text. -/
abbrev Reader (α : Type) := List Char → Option (α × List Char)

/-- A space or a tab. -/
def isBlank (c : Char) : Bool := c = ' ' || c = '\t'

/-- The character may stand in a comment, and in a string if it has no meaning of its own there. -/
def isPlain (c : Char) : Bool := c = '\t' || (0x20 ≤ c.toNat && c.toNat ≠ 0x7f)

/-- What follows the blanks. -/
def skipBlanks (s : List Char) : List Char := s.dropWhile isBlank

/-- What follows a line break. -/
def newline? : List Char → Option (List Char)
  | '\n' :: s => some s
  | '\r' :: '\n' :: s => some s
  | _ => none

/-- What follows a comment, at its line break. -/
def comment? : List Char → Option (List Char)
  | '#' :: s => some (s.dropWhile isPlain)
  | _ => none

/-- What follows the rest of a line that holds nothing more than a comment. -/
def endLine? (s : List Char) : Option (List Char) :=
  let s := skipBlanks s
  let s := (comment? s).getD s
  if s = [] then some [] else newline? s

/-- The number that hexadecimal digits spell. -/
def hexNumber? (digits : List Char) : Option Nat :=
  digits.foldlM (fun n c => (Hex.value? c).map (n * 16 + ·)) 0

/-- The character with a code point given by that many hexadecimal digits, unless it is a
surrogate or there is none. -/
def codePoint? (count : Nat) : Reader Char := fun s => do
  if s.length < count then none
  let n ← hexNumber? (s.take count)
  if n < 0xd800 ∨ 0xe000 ≤ n ∧ n ≤ 0x10ffff then some (Char.ofNat n, s.drop count) else none

/-- What an escape stands for, after its backslash. -/
def escape? : Reader Char
  | 'b' :: s => some ('\x08', s)
  | 't' :: s => some ('\t', s)
  | 'n' :: s => some ('\n', s)
  | 'f' :: s => some ('\x0c', s)
  | 'r' :: s => some ('\r', s)
  | '"' :: s => some ('"', s)
  | '\\' :: s => some ('\\', s)
  | 'u' :: s => codePoint? 4 s
  | 'U' :: s => codePoint? 8 s
  | _ => none

/-- The rest of a string between single quotes, in which nothing is escaped. -/
def literal? : Reader (List Char)
  | [] => none
  | '\'' :: s => some ([], s)
  | c :: s =>
    if isPlain c then (literal? s).map fun (text, rest) => (c :: text, rest) else none

/-- The rest of a string between triple single quotes; up to two more of them belong to the text. -/
def longLiteral? : Reader (List Char)
  | '\'' :: '\'' :: '\'' :: '\'' :: '\'' :: s => some (['\'', '\''], s)
  | '\'' :: '\'' :: '\'' :: '\'' :: s => some (['\''], s)
  | '\'' :: '\'' :: '\'' :: s => some ([], s)
  | '\r' :: '\n' :: s => (longLiteral? s).map fun (text, rest) => ('\n' :: text, rest)
  | c :: s =>
    if isPlain c ∨ c = '\n' then
      (longLiteral? s).map fun (text, rest) => (c :: text, rest)
    else none
  | [] => none

theorem codePoint?_length {count : Nat} {s rest : List Char} {c : Char}
    (h : codePoint? count s = some (c, rest)) : rest.length ≤ s.length := by
  simp only [codePoint?] at h
  split at h
  · simp at h
  · cases hn : hexNumber? (s.take count) with
    | none => simp [hn] at h
    | some n =>
      simp only [hn, Option.bind_eq_bind, Option.bind_some] at h
      split at h
      · simp only [Option.some.injEq, Prod.mk.injEq] at h
        simp [← h.2]
      · simp at h

theorem escape?_length {s rest : List Char} {c : Char} (h : escape? s = some (c, rest)) :
    rest.length < s.length := by
  unfold escape? at h
  split at h <;> first
    | exact Nat.lt_succ_of_le (codePoint?_length h)
    | (simp only [Option.some.injEq, Prod.mk.injEq] at h; simp [← h.2])
    | simp at h

/-- The rest of a string between double quotes. -/
def basic? : Reader (List Char)
  | [] => none
  | '"' :: s => some ([], s)
  | '\\' :: s =>
    match _h : escape? s with
    | none => none
    | some (c, next) => (basic? next).map fun (text, rest) => (c :: text, rest)
  | c :: s =>
    if isPlain c then (basic? s).map fun (text, rest) => (c :: text, rest) else none
termination_by s => s.length
decreasing_by
  all_goals simp only [List.length_cons]
  · have := escape?_length _h; omega
  · omega

/-- What follows blanks and line breaks. -/
def skipSpace : List Char → List Char
  | [] => []
  | '\r' :: '\n' :: s => skipSpace s
  | c :: s => if isBlank c ∨ c = '\n' then skipSpace s else c :: s

theorem skipSpace_length (s : List Char) : (skipSpace s).length ≤ s.length := by
  fun_induction skipSpace s <;> simp_all <;> omega

/-- The rest of a string between triple double quotes. Up to two more of them belong to the text.
A backslash that ends a line stands for nothing, with all space up to the next character. -/
def longBasic? : Reader (List Char)
  | '"' :: '"' :: '"' :: '"' :: '"' :: s => some (['"', '"'], s)
  | '"' :: '"' :: '"' :: '"' :: s => some (['"'], s)
  | '"' :: '"' :: '"' :: s => some ([], s)
  | '\r' :: '\n' :: s => (longBasic? s).map fun (text, rest) => ('\n' :: text, rest)
  | '\\' :: s =>
    if (newline? (skipBlanks s)).isSome then longBasic? (skipSpace s)
    else
      match _h : escape? s with
      | none => none
      | some (c, next) => (longBasic? next).map fun (text, rest) => (c :: text, rest)
  | c :: s =>
    if isPlain c ∨ c = '\n' then (longBasic? s).map fun (text, rest) => (c :: text, rest)
    else none
  | [] => none
termination_by s => s.length
decreasing_by
  all_goals simp only [List.length_cons]
  · omega
  · have := skipSpace_length s; omega
  · have := escape?_length _h; omega
  · omega

/-- A string on one line. -/
def shortText? : Reader (List Char)
  | '"' :: s => basic? s
  | '\'' :: s => literal? s
  | _ => none

/-- A string of any kind. A line break right after triple quotes is not part of it. -/
def text? : Reader (List Char)
  | '"' :: '"' :: '"' :: s => longBasic? ((newline? s).getD s)
  | '\'' :: '\'' :: '\'' :: s => longLiteral? ((newline? s).getD s)
  | s => shortText? s

/-- The character may stand in a key without quotes. -/
def isBare (c : Char) : Bool := c.isAlphanum || c = '-' || c = '_'

/-- One part of a key. -/
def keyPart? : Reader String := fun s =>
  match s with
  | '"' :: _ | '\'' :: _ => (shortText? s).map fun (text, rest) => (String.ofList text, rest)
  | _ =>
    let bare := s.takeWhile isBare
    if bare = [] then none else some (String.ofList bare, s.dropWhile isBare)

/-- How deep values may nest, and how many parts a key may have: less than this. -/
def depthLimit : Nat := 80

/-- A key of up to `count` parts with points between them; blanks may stand around each part. -/
def keyParts? : Nat → Reader (List String)
  | 0, _ => none
  | count + 1, s => do
    let (part, s) ← keyPart? (skipBlanks s)
    match skipBlanks s with
    | '.' :: s =>
      let (parts, s) ← keyParts? count s
      some (part :: parts, s)
    | s => some ([part], s)

/-- A key. -/
def key? : Reader (List String) := keyParts? (depthLimit - 1)

end DeviceAuth.Toml
