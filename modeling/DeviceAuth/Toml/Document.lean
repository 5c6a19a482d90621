import DeviceAuth.Toml.Scalar
import DeviceAuth.Toml.Table

/-!
# TOML documents

Values of every kind, lines, and the tree of a whole document (`Toml.parse?`).
-/

namespace DeviceAuth.Toml

/-- What follows blanks, line breaks and comments; none if a comment does not end with its line. -/
def skipLines? (s : List Char) : Option (List Char) :=
  let rest := skipSpace s
  match comment? rest with
  | none => some rest
  | some t =>
    match newline? t with
    | none => none
    | some u => if u.length < s.length then skipLines? u else none
termination_by s.length

/-- The elements of an array after its bracket, or after a comma, up to its end. -/
def elements? (value? : Reader Node) (s : List Char) : Option (List Char) := do
  let s' ← skipLines? s
  match s' with
  | ']' :: rest => some rest
  | _ =>
    let (_, rest) ← value? s'
    let rest ← skipLines? rest
    match rest with
    | ']' :: rest => some rest
    | ',' :: rest => if rest.length < s.length then elements? value? rest else none
    | _ => none
termination_by s.length

/-- A key, an equals sign and a value. -/
def pair? (value? : Reader Node) : Reader (List String × Node) := fun s => do
  let (key, s) ← key? s
  let s ← expect? '=' s
  let (node, s) ← value? (skipBlanks s)
  some ((key, node), s)

/-- The pairs of a table in braces after the first brace, or after a comma, up to its end. -/
def pairs? (value? : Reader Node) (s : List Char) :
    Option (List (List String × Node) × List Char) := do
  let (pair, rest) ← pair? value? s
  match skipBlanks rest with
  | '\x7d' :: rest => some ([pair], rest)
  | ',' :: rest =>
    if rest.length < s.length then
      let (more, rest) ← pairs? value? rest
      some (pair :: more, rest)
    else none
  | _ => none
termination_by s.length

/-- A table in braces, after the first. -/
def inlineTable? (value? : Reader Node) : Reader Node := fun s =>
  match skipBlanks s with
  | '\x7d' :: rest => some (.table .inline [], rest)
  | _ => do
    let (pairs, rest) ← pairs? value? s
    let entries ← Entries.addAll? [] pairs
    some (.table .inline entries, rest)

/-- A value below fewer than `depth` further brackets and braces. -/
def value? (depth : Nat) : Reader Node
  | '[' :: s =>
    match depth with
    | 0 => none
    | depth + 1 => (elements? (value? depth) s).map (.other, ·)
  | '\x7b' :: s =>
    match depth with
    | 0 => none
    | depth + 1 => inlineTable? (value? depth) s
  | '"' :: s => (text? ('"' :: s)).map fun (t, rest) => (.text (String.ofList t), rest)
  | '\'' :: s => (text? ('\'' :: s)).map fun (t, rest) => (.text (String.ofList t), rest)
  | s =>
    match (moment? s).or ((float? s).or (boolean? s)) with
    | some rest => some (.other, rest)
    | none => (integer? s).map fun (n, rest) => (.integer n, rest)

/-- What a line holds. -/
inductive Line
  | empty
  | pair (key : List String) (node : Node)
  | header (isArray : Bool) (path : List String)

/-- A line. -/
def line? : Reader Line := fun s =>
  let s := skipBlanks s
  match endLine? s with
  | some rest => some (.empty, rest)
  | none =>
    match s with
    | '[' :: '[' :: s => do
      let (path, s) ← key? s
      let s ← expect? ']' (← expect? ']' s)
      some (.header true path, ← endLine? s)
    | '[' :: s => do
      let (path, s) ← key? s
      let s ← expect? ']' s
      some (.header false path, ← endLine? s)
    | s => do
      let ((key, node), s) ← pair? (value? (depthLimit - 1)) s
      some (.pair key node, ← endLine? s)

/-- All lines. -/
def lines? (s : List Char) : Option (List Line) :=
  if s = [] then some []
  else
    match line? s with
    | none => none
    | some (line, rest) =>
      if rest.length < s.length then (lines? rest).map (line :: ·) else none
termination_by s.length

/-- The pairs before the first header, and the sections after it. -/
def sections : List Line → List (List String × Node) × List Section
  | [] => ([], [])
  | .empty :: ls => sections ls
  | .pair key node :: ls =>
    let (pairs, rest) := sections ls
    ((key, node) :: pairs, rest)
  | .header isArray path :: ls =>
    let (pairs, rest) := sections ls
    ([], ⟨isArray, path, pairs⟩ :: rest)

/-- The tree of a document. A byte order mark may come before it. -/
def parse? (document : String) : Option Entries := do
  let chars := document.toList
  let (pairs, sections) := sections
    (← lines? (if chars.head? = some '\ufeff' then chars.tail else chars))
  sections.foldlM Section.addTo? (← Entries.addAll? [] pairs)

end DeviceAuth.Toml
