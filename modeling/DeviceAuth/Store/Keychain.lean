import DeviceAuth.Octets
import DeviceAuth.Store.Basic
import DeviceAuth.Table
import DeviceAuth.Text.Quoted

/-!
# The store in a keychain

A keychain keeps byte strings for any number of services, each under its own keys. The store of one
service keeps its texts there in UTF-8. A keychain may be missing altogether or refuse some calls.
-/

namespace DeviceAuth

/-- A keychain: what it holds, which calls it refuses, and whether it is missing. -/
structure Keychain where
  entries : Table (String × String) Octets
  locked : List StoreCall
  missing : Bool

namespace Keychain

/-- Nothing is stored, and all calls go through. -/
def empty : Keychain := ⟨[], [], false⟩

/-- The service that devices keep their settings under. -/
def defaultService : String := "com.byte.app"

/-- Whether a service can use the keychain at all. -/
def isAvailable (k : Keychain) : Bool := ! k.missing

/-- How the keychain refuses a call, if it does. -/
def refusal? (k : Keychain) (call : StoreCall) : Option String :=
  if k.missing then
    some "keychain entry creation: Platform secure storage failure: keychain missing"
  else if call ∈ k.locked then
    some (verb ++ " for '" ++ call.key ++ "': Platform secure storage failure: keychain locked")
  else none
where
  /-- What the keychain was to do. -/
  verb : String :=
    match call.op with
    | .save => "keychain store"
    | .load => "keychain get"
    | .delete => "keychain delete"

/-- The store of a service. -/
def store (service : String) : Store Keychain where
  save key value k :=
    match k.refusal? ⟨.save, key⟩ with
    | some why => (.error why, k)
    | none => (.ok (), { k with entries := k.entries.set (service, key) (.ofString value) })
  load key k :=
    match k.refusal? ⟨.load, key⟩ with
    | some why => (.error why, k)
    | none =>
      match k.entries.lookup (service, key) with
      | none => (.ok none, k)
      | some bytes =>
        match Octets.text? bytes with
        | some value => (.ok (some value), k)
        | none => (.error ("keychain get for '" ++ key ++ "': Data is not UTF-8 encoded"), k)
  delete key k :=
    match k.refusal? ⟨.delete, key⟩ with
    | some why => (.error why, k)
    | none => (.ok (), { k with entries := k.entries.remove (service, key) })

/-- What is shown of the store of a service. -/
def showStore (service : String) : String :=
  "KeyringStore \x7b service: " ++ Text.quoted service ++ " \x7d"

/-- The store of a service in a keychain that keeps nothing: saving and deleting succeed, and
nothing is ever found. -/
def forgetful : Store Unit where
  save _ _ u := (.ok (), u)
  load _ u := (.ok none, u)
  delete _ u := (.ok (), u)

end Keychain

end DeviceAuth
