import DeviceAuth.Octets

/-!
# Headers

Headers are values under names whose case does not matter. A name may have several values, of
which the first counts. A value is a text if all of its bytes are printable ASCII or tabs.
-/

namespace DeviceAuth

/-- Names in lower case with their values, in order. -/
abbrev Headers := List (String × Octets)

namespace Headers

/-- The name under which values are kept. -/
def canonical (name : String) : String := String.ofList (name.toList.map Char.toLower)

/-- One more value. -/
def append (h : Headers) (name : String) (value : Octets) : Headers :=
  h ++ [(canonical name, value)]

/-- All values of other names. -/
def remove (h : Headers) (name : String) : Headers := h.filter fun e => e.1 ≠ canonical name

/-- A value in place of all earlier ones of its name. -/
def insert (h : Headers) (name : String) (value : Octets) : Headers :=
  (h.remove name).append name value

/-- The values of a name, in order. -/
def values (h : Headers) (name : String) : List Octets :=
  (h.filter fun e => e.1 = canonical name).map (·.2)

/-- The names there are, in the order in which they come first. -/
def names (h : Headers) : List String := (h.map (·.1)).eraseDups

/-- The text that a value is. -/
def text? (value : Octets) : Option String :=
  if value.all fun b => b = 0x09 || (0x20 ≤ b && b ≤ 0x7e) then
    some (String.ofList (value.map Char.ofUInt8))
  else none

/-- The first value of a name, if it is a text. -/
def first? (h : Headers) (name : String) : Option String := (h.values name).head? >>= text?

end Headers

end DeviceAuth
