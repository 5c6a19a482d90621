/-!
# Server addresses

An address names a server by a scheme, `://` and an authority; a path, a query and a fragment may
follow. `Url.split?` finds the parts, which are then checked one by one (`Url.isAbsolute`).
-/

namespace DeviceAuth

/-- The parts of an address, the rest with the character that begins it. -/
structure Url where
  scheme : List Char
  authority : List Char
  rest : List Char

namespace Url

/-- The longest address, in bytes. -/
def maxBytes : Nat := 65534

def maxSchemeLength : Nat := 64

/-- The character may stand in a scheme. -/
def isSchemeChar (c : Char) : Bool := c.isAlphanum || c = '+' || c = '-' || c = '.' || c = '~'

/-- The character ends an authority. -/
def endsAuthority (c : Char) : Bool := c = '/' || c = '?' || c = '#'

/-- The parts of an address that begins with a scheme. -/
def split? (s : List Char) : Option Url :=
  match s.dropWhile isSchemeChar with
  | ':' :: '/' :: '/' :: s' =>
    some
      { scheme := s.takeWhile isSchemeChar
        authority := s'.takeWhile (! endsAuthority ·)
        rest := s'.dropWhile (! endsAuthority ·) }
  | _ => none

/-- What has been seen of an authority. -/
structure Authority where
  /-- Colons outside brackets and after the last at sign. -/
  colons : Nat
  /-- There is a percent sign outside brackets and after the last at sign. -/
  percent : Bool
  opened : Bool
  closed : Bool

namespace Authority

/-- At its start. -/
def start : Authority := ⟨0, false, false, false⟩

/-- How many colons may stand together before a bracket closes or an at sign comes. -/
def maxColons : Nat := 8

/-- What one more character adds, if it may stand here. A closing bracket or an at sign settles the
colons and percent signs before it. -/
def step? (a : Authority) (c : Char) : Option Authority :=
  if c = ':' then if maxColons ≤ a.colons then none else some { a with colons := a.colons + 1 }
  else if c = '[' then if a.percent ∨ a.opened then none else some { a with opened := true }
  else if c = ']' then
    if a.opened ∧ ¬ a.closed then some { a with closed := true, colons := 0, percent := false }
    else none
  else if c = '@' then some { a with colons := 0, percent := false }
  else if c = '%' then some { a with percent := true }
  else if c.isAlphanum ∨ c ∈ "!$&'()*+,-.;=_~".toList then some a
  else none

/-- The authority may end here. -/
def isComplete (a : Authority) : Bool :=
  a.opened == a.closed && decide (a.colons ≤ 1) && ! a.percent

end Authority

/-- The text is an authority: not empty, and with something after an at sign. -/
def isAuthority (s : List Char) : Bool :=
  s ≠ [] && s.getLast? ≠ some '@' &&
    match s.foldlM Authority.step? .start with
    | some a => a.isComplete
    | none => false

/-- The character may stand in a path. Among those that may not are the control characters of ASCII,
U+007F with them. -/
def isPathChar (c : Char) : Bool :=
  let n := c.toNat
  n = 0x21 || n = 0x22 || (0x24 ≤ n && n ≤ 0x3b) || n = 0x3d || (0x40 ≤ n && n ≤ 0x5f)
    || (0x61 ≤ n && n ≤ 0x7e) || 0x80 ≤ n

/-- The character may stand in a query. -/
def isQueryChar (c : Char) : Bool :=
  let n := c.toNat
  n = 0x21 || (0x24 ≤ n && n ≤ 0x3b) || n = 0x3d || (0x3f ≤ n && n ≤ 0x7e) || 0x80 ≤ n

/-- The text may follow an authority: a path and a query of allowed characters, and any
fragment. -/
def isRest (s : List Char) : Bool :=
  let s := s.takeWhile (· ≠ '#')
  (s.takeWhile (· ≠ '?')).all isPathChar && ((s.dropWhile (· ≠ '?')).drop 1).all isQueryChar

/-- The text is an address with a scheme and an authority. -/
def isAbsolute (s : String) : Bool :=
  decide (s.utf8ByteSize ≤ maxBytes) &&
    match split? s.toList with
    | some u =>
      decide (u.scheme.length ≤ maxSchemeLength) && isAuthority u.authority && isRest u.rest
    | none => false

end Url

end DeviceAuth
