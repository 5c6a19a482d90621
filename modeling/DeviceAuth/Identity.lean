import DeviceAuth.Octets
import DeviceAuth.Json.Record

/-!
# Device identities

A device is named by a UUID of version 4 in its hyphenated form. Both letter cases are accepted and
the spelling is kept, since requests and tokens carry exactly these bytes.
-/

namespace DeviceAuth

namespace DeviceId

/-- What may stand at each place of an identity: groups of 8, 4, 4, 4 and 12 hexadecimal digits
between hyphens, the third group beginning with the version. -/
def layout : List (Char → Bool) :=
  List.replicate 8 Hex.isDigit ++ [(· == '-')]
    ++ List.replicate 4 Hex.isDigit ++ [(· == '-')]
    ++ [(· == '4')] ++ List.replicate 3 Hex.isDigit ++ [(· == '-')]
    ++ List.replicate 4 Hex.isDigit ++ [(· == '-')]
    ++ List.replicate 12 Hex.isDigit

/-- Each character is allowed at its place, and none is missing or left over. -/
def fits : List (Char → Bool) → List Char → Bool
  | [], [] => true
  | allowed :: layout, c :: s => allowed c && fits layout s
  | _, _ => false

/-- The text names a device. -/
def isValid (s : String) : Bool := fits layout s.toList

end DeviceId

/-- The name of a device, as it was spelled. -/
@[ext] structure DeviceId where
  text : String
  valid : DeviceId.isValid text = true
deriving DecidableEq

/-- Why a text names no device. -/
inductive IdentityError
  | invalidIdentity
deriving DecidableEq

/-- The wording of an error. -/
def IdentityError.message : IdentityError → String
  | invalidIdentity => "invalid client identity: must be a canonical UUID v4"

namespace DeviceId

/-- The device a text names. -/
def parse? (s : String) : Option DeviceId := if h : isValid s then some ⟨s, h⟩ else none

/-- The device a text names, or why it names none. -/
def parse (s : String) : Except IdentityError DeviceId :=
  match parse? s with
  | some id => .ok id
  | none => .error .invalidIdentity

/-- The bytes that stand for a device in keys and tokens. -/
def octets (id : DeviceId) : Octets := Octets.ofString id.text

/-- A device's name as JSON. -/
def toJson (id : DeviceId) : String := String.ofList (Json.quote id.text)

/-- The device a JSON string names. -/
def ofJson? (bs : Octets) : Option DeviceId := Json.readText? bs >>= parse?

/-- The hyphenated form of sixteen bytes, in lower case. -/
def render (bytes : Block 16) : String :=
  let digits := bytes.octets.flatMap Hex.ofByte
  String.ofList (digits.take 8 ++ '-' :: (digits.drop 8).take 4 ++ '-' :: (digits.drop 12).take 4
    ++ '-' :: (digits.drop 16).take 4 ++ '-' :: digits.drop 20)

/-- Random bytes with the version and the variant of a random identity put in. -/
def stamp (bytes : Block 16) : Block 16 where
  octets := (bytes.octets.modify 6 fun b => b &&& 0x0f ||| 0x40).modify 8
    fun b => b &&& 0x3f ||| 0x80
  length_octets := by simp

/-- The name of a new device, from random bytes. -/
def generate? (bytes : Block 16) : Option DeviceId := parse? (render (stamp bytes))

@[simp] theorem parse?_text (id : DeviceId) : parse? id.text = some id := by
  simp [parse?, id.valid]

end DeviceId

end DeviceAuth
