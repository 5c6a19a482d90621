import DeviceAuth.Identity
import DeviceAuth.Text.Affix

/-!
# UUIDs

A UUID is sixteen bytes, written as hexadecimal digits in one of four forms (`Uuid.Form`). Reading
one (`Uuid.parse?`) goes by the bytes of the text and takes every form, digits in either case. A
device is named by the hyphenated form alone, and `DeviceId.validate` finds that out by writing
again what a reader has read.
-/

namespace DeviceAuth

namespace Uuid

/-- How a UUID may be written. -/
inductive Form
  | simple
  | hyphenated
  | braced
  | urn
deriving DecidableEq

/-- A UUID in a form, in lower case. -/
def Form.write (bytes : Block 16) : Form → String
  | simple => String.ofList (bytes.octets.flatMap Hex.ofByte)
  | hyphenated => DeviceId.render bytes
  | braced => "\x7b" ++ DeviceId.render bytes ++ "\x7d"
  | urn => "urn:uuid:" ++ DeviceId.render bytes

/-- The bytes that digits stand for, two for each. -/
def bytes? : List Char → Option Octets
  | [] => some []
  | [_] => none
  | high :: low :: digits => do
    let h ← Hex.value? high
    let l ← Hex.value? low
    let rest ← bytes? digits
    some (UInt8.ofNat (h * 16 + l) :: rest)

/-- How many digits stand together in the hyphenated form. -/
def groupSizes : List Nat := [8, 4, 4, 4, 12]

/-- What stands in groups of these sizes, with a hyphen after each but the last. -/
def ungroup? : List Nat → List Char → Option (List Char)
  | [], _ => none
  | [size], cs => if cs.length = size then some cs else none
  | size :: sizes, cs =>
    if cs[size]? = some '-' then (ungroup? sizes (cs.drop (size + 1))).map (cs.take size ++ ·)
    else none

/-- The hyphenated form within a text of another form. -/
def hyphenated? (cs : List Char) : Option (List Char) :=
  if cs.length = 36 then some cs
  else if cs.length = 38 then
    if cs.head? = some '\x7b' ∧ cs.getLast? = some '\x7d' then some cs.tail.dropLast else none
  else if cs.length = 45 then Text.after? "urn:uuid:".toList cs
  else none

/-- The UUID that characters of one byte each stand for. -/
def ofChars? (cs : List Char) : Option (Block 16) := do
  let digits ← if cs.length = 32 then some cs else hyphenated? cs >>= ungroup? groupSizes
  let bytes ← bytes? digits
  Block.ofOctets? 16 bytes

/-- The UUID a text stands for, in whatever form. -/
def parse? (s : String) : Option (Block 16) :=
  ofChars? ((Octets.ofString s).map Char.ofUInt8)

/-- The version that a UUID says it has. -/
def version (bytes : Block 16) : Nat := (bytes.octets.getD 6 0).toNat / 16

end Uuid

/-- Refuses a text that `read` takes for no UUID, that is not in the hyphenated form, or whose UUID
has another version. -/
def DeviceId.validate (read : String → Option (Block 16)) (s : String) :
    Except IdentityError Unit :=
  match read s with
  | none => .error .invalidIdentity
  | some bytes =>
    if (DeviceId.render bytes).toLower ≠ s.toLower then .error .invalidIdentity
    else if Uuid.version bytes ≠ 4 then .error .invalidIdentity
    else .ok ()

end DeviceAuth
