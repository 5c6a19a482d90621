import DeviceAuth.Octets
import DeviceAuth.Text.Hex

/-!
# JSON tokens

JSON texts cut into tokens (`Token.scan`), byte by byte. Inside a string any byte but a
control character may stand, UTF-8 or not; what its escapes mean is left to whoever wants the text.
The first byte that belongs to no token ends the list with `junk`.
-/

namespace DeviceAuth.Json

inductive Token
  | openObject
  | closeObject
  | openArray
  | closeArray
  | colon
  | comma
  /-- A number, `true`, `false` or `null`. -/
  | atom
  /-- A string as it stands between its quotes. -/
  | text (raw : Octets)
  | junk
deriving DecidableEq

namespace Token

/-- How far a number has been read. -/
inductive Digits
  | minus
  | zero
  | whole
  | point
  | decimals
  | exponent
  | exponentSign
  | exponentDigits
deriving DecidableEq

namespace Digits

/-- The number may end here. -/
def isComplete : Digits → Bool
  | zero | whole | decimals | exponentDigits => true
  | minus | point | exponent | exponentSign => false

/-- Where one more character leads. -/
def next? (d : Digits) (c : Char) : Option Digits :=
  match d with
  | minus => if c = '0' then some zero else if c.isDigit then some whole else none
  | zero => fraction? c
  | whole => if c.isDigit then some whole else fraction? c
  | point => if c.isDigit then some decimals else none
  | decimals => if c.isDigit then some decimals else exponent? c
  | exponent =>
    if c = '+' ∨ c = '-' then some exponentSign
    else if c.isDigit then some exponentDigits
    else none
  | exponentSign => if c.isDigit then some exponentDigits else none
  | exponentDigits => if c.isDigit then some exponentDigits else none
where
  exponent? (c : Char) : Option Digits := if c = 'e' ∨ c = 'E' then some exponent else none
  fraction? (c : Char) : Option Digits := if c = '.' then some point else exponent? c

end Digits

/-- What the bytes read last belong to. -/
inductive Mode
  | between
  /-- A string, its bytes so far in reverse. -/
  | inText (read : Octets)
  /-- A string after a backslash, which is among the bytes read. -/
  | escape (read : Octets)
  /-- A string in a `\u` escape with this many digits to come. -/
  | code (count : Nat) (read : Octets)
  /-- A word, with what is missing of it. -/
  | word (rest : List Char)
  | number (d : Digits)

/-- What a byte outside all tokens does: the token it is, and what the next byte belongs to. -/
def start? (c : Char) : Option (Option Token × Mode) :=
  match c with
  | ' ' | '\t' | '\n' | '\r' => some (none, .between)
  | '\x7b' => some (some openObject, .between)
  | '\x7d' => some (some closeObject, .between)
  | '[' => some (some openArray, .between)
  | ']' => some (some closeArray, .between)
  | ':' => some (some colon, .between)
  | ',' => some (some comma, .between)
  | '"' => some (none, .inText [])
  | 't' => some (none, .word ['r', 'u', 'e'])
  | 'f' => some (none, .word ['a', 'l', 's', 'e'])
  | 'n' => some (none, .word ['u', 'l', 'l'])
  | '-' => some (none, .number .minus)
  | '0' => some (none, .number .zero)
  | c => if c.isDigit then some (none, .number .whole) else none

/-- The character may follow a backslash, other than the `u` of a code unit. -/
def isEscape (c : Char) : Bool := c ∈ ['"', '\\', '/', 'b', 'f', 'n', 'r', 't']

/-- The tokens of the remaining bytes. -/
def scan : Mode → Octets → List Token
  | .between, [] => []
  | .number d, [] => if d.isComplete then [atom] else [junk]
  | _, [] => [junk]
  | .between, b :: bs =>
    match start? (Char.ofUInt8 b) with
    | some (token, mode) => token.toList ++ scan mode bs
    | none => [junk]
  | .inText read, b :: bs =>
    let c := Char.ofUInt8 b
    if c = '"' then text read.reverse :: scan .between bs
    else if c = '\\' then scan (.escape (b :: read)) bs
    else if b < 0x20 then [junk]
    else scan (.inText (b :: read)) bs
  | .escape read, b :: bs =>
    let c := Char.ofUInt8 b
    if isEscape c then scan (.inText (b :: read)) bs
    else if c = 'u' then scan (.code 4 (b :: read)) bs
    else [junk]
  | .code count read, b :: bs =>
    if Hex.isDigit (Char.ofUInt8 b) then
      scan (if count ≤ 1 then .inText (b :: read) else .code (count - 1) (b :: read)) bs
    else [junk]
  | .word rest, b :: bs =>
    if rest.head? = some (Char.ofUInt8 b) then
      if rest.tail = [] then atom :: scan .between bs else scan (.word rest.tail) bs
    else [junk]
  | .number d, b :: bs =>
    match d.next? (Char.ofUInt8 b) with
    | some further => scan (.number further) bs
    | none =>
      if d.isComplete then
        match start? (Char.ofUInt8 b) with
        | some (token, mode) => atom :: token.toList ++ scan mode bs
        | none => [atom, junk]
      else [junk]

/-- The tokens of a text. -/
def ofOctets (bs : Octets) : List Token := scan .between bs

end Token

end DeviceAuth.Json
