import DeviceAuth.Json.Text

/-!
# JSON records

Records are objects whose known members are strings. Members may come in any order, others may
stand among them and are checked for their syntax only, and a known one may come once. A record
may also be an array of exactly the known members in their order. Reading goes from left to right
and stops at the first fault, so which fault is reported does not depend on what follows it.
-/

namespace DeviceAuth.Json

/-- Why a text is no record of the kind wanted. -/
inductive Fault
  /-- It is not JSON, of another shape, or holds a value that is not wanted. -/
  | malformed
  | missing (field : String)
  | duplicate (field : String)
deriving DecidableEq

/-- The message `stem`, with what is known of the fault. -/
def Fault.append (stem : String) : Fault → String
  | malformed => stem
  | missing field => stem ++ ": missing field `" ++ field ++ "`"
  | duplicate field => stem ++ ": duplicate field `" ++ field ++ "`"

/-- A kind of records over values in `α`. -/
structure Schema (α β : Type) where
  /-- The known members in their order. -/
  fields : List String
  /-- The value a text stands for. -/
  value? : String → Option α
  /-- The record, by way of its members. -/
  build : (String → Except Fault α) → Except Fault β

/-- What may come next inside a value that nobody reads. -/
inductive Expect
  | value
  | valueOrClose
  | name
  | nameOrClose
  | colon
  | commaOrClose
deriving DecidableEq

/-- A value that nobody reads, part of the way through. -/
structure Skipping where
  /-- For each bracket left open, innermost first, whether it is an object's. -/
  opened : List Bool
  expect : Expect
deriving DecidableEq

namespace Skipping

/-- Before a value. -/
def start : Skipping := ⟨[], .value⟩

/-- The value is over. -/
def isDone (s : Skipping) : Bool := s.opened.isEmpty && s.expect == .commaOrClose

/-- What one more token does, if it may come here. -/
def step? (s : Skipping) (t : Token) : Option Skipping :=
  match s.expect, t with
  | .value, .text _ | .value, .atom | .valueOrClose, .text _ | .valueOrClose, .atom =>
    some ⟨s.opened, .commaOrClose⟩
  | .value, .openObject | .valueOrClose, .openObject => some ⟨true :: s.opened, .nameOrClose⟩
  | .value, .openArray | .valueOrClose, .openArray => some ⟨false :: s.opened, .valueOrClose⟩
  | .valueOrClose, .closeArray => some ⟨s.opened.tail, .commaOrClose⟩
  | .name, .text _ | .nameOrClose, .text _ => some ⟨s.opened, .colon⟩
  | .nameOrClose, .closeObject => some ⟨s.opened.tail, .commaOrClose⟩
  | .colon, .colon => some ⟨s.opened, .value⟩
  | .commaOrClose, .comma =>
    match s.opened with
    | true :: _ => some ⟨s.opened, .name⟩
    | false :: _ => some ⟨s.opened, .value⟩
    | [] => none
  | .commaOrClose, .closeObject =>
    if s.opened.head? = some true then some ⟨s.opened.tail, .commaOrClose⟩ else none
  | .commaOrClose, .closeArray =>
    if s.opened.head? = some false then some ⟨s.opened.tail, .commaOrClose⟩ else none
  | _, _ => none

end Skipping

/-- Where a reader stands in an object. -/
inductive Place
  | afterOpen
  | afterComma
  /-- After a name, which is a known member's or not. -/
  | afterName (field : Option String)
  /-- Before the value of a known member. -/
  | beforeValue (field : String)
  | skipping (s : Skipping)
  | afterValue

namespace Schema

variable {α β : Type} (S : Schema α β)

/-- The record that the values found make up. -/
def finish (found : List (String × α)) : Except Fault β :=
  S.build fun field =>
    match found.lookup field with
    | some v => .ok v
    | none => .error (.missing field)

/-- Which member a name starts; a known one that has been found already may not come again. -/
def member (found : List (String × α)) (raw : Octets) : Except Fault (Option String) :=
  match unquote? raw with
  | none => .error .malformed
  | some name =>
    if name ∉ S.fields then .ok none
    else if (found.lookup name).isSome then .error (.duplicate name)
    else .ok (some name)

/-- The rest of an object, given the members found so far. -/
def readMembers (found : List (String × α)) : Place → List Token → Except Fault β
  | .afterOpen, .text raw :: ts | .afterComma, .text raw :: ts =>
    match S.member found raw with
    | .ok field => readMembers found (.afterName field) ts
    | .error e => .error e
  | .afterName (some field), .colon :: ts => readMembers found (.beforeValue field) ts
  | .afterName none, .colon :: ts => readMembers found (.skipping .start) ts
  | .beforeValue field, .text raw :: ts =>
    match unquote? raw >>= S.value? with
    | some v => readMembers ((field, v) :: found) .afterValue ts
    | none => .error .malformed
  | .skipping s, t :: ts =>
    match s.step? t with
    | some s => readMembers found (if s.isDone then .afterValue else .skipping s) ts
    | none => .error .malformed
  | .afterValue, .comma :: ts => readMembers found .afterComma ts
  | .afterOpen, .closeObject :: ts | .afterValue, .closeObject :: ts => do
    let record ← S.finish found
    if ts = [] then .ok record else .error .malformed
  | _, _ => .error .malformed

/-- The rest of an array with these members to come. -/
def readElements (found : List (String × α)) : List String → List Token → Except Fault β
  | [], ts =>
    if ts = [.closeArray] then S.finish found else .error .malformed
  | field :: fields, .text raw :: ts =>
    match unquote? raw >>= S.value? with
    | none => .error .malformed
    | some v =>
      if fields = [] then readElements ((field, v) :: found) fields ts
      else
        match ts with
        | .comma :: ts => readElements ((field, v) :: found) fields ts
        | _ => .error .malformed
  | _ :: _, _ => .error .malformed

/-- The record these bytes hold. -/
def read (bs : Octets) : Except Fault β :=
  match Token.ofOctets bs with
  | .openObject :: ts => S.readMembers [] .afterOpen ts
  | .openArray :: ts => S.readElements [] S.fields ts
  | _ => .error .malformed

end Schema

/-- The text that bytes hold which are a single string. -/
def readText? (bs : Octets) : Option String :=
  match Token.ofOctets bs with
  | [.text raw] => unquote? raw
  | _ => none

end DeviceAuth.Json
