import DeviceAuth.Config.Settings
import DeviceAuth.Store.Basic

/-!
# Sessions

A device's session is its three settings, kept in a store under a key each. Saving one writes all
three or, if a write fails, puts back what was there before.
-/

namespace DeviceAuth.Session

/-- The key of the address. -/
def serverUrlKey : String := "serverURL"

/-- The key of the device's name. -/
def deviceIdKey : String := "deviceID"

/-- The key of the root secret. -/
def secretKey : String := "secret"

/-- The keys of a session, in the order in which they are used. -/
def keys : List String := [serverUrlKey, deviceIdKey, secretKey]

/-- Why a session was not saved, loaded or removed. -/
inductive Error
  /-- The settings to be saved are invalid. -/
  | refused (e : ConfigError)
  | reading (key why : String)
  | saving (key why : String)
  | store (why : String)
  /-- The settings that were found are invalid. -/
  | invalidStored (e : ConfigError)
deriving DecidableEq

namespace Error

/-- An error and, after it, what caused it. -/
def chain : Error → List String
  | refused e => ["refusing to store invalid configuration", e.message]
  | reading key why => ["reading current '" ++ key ++ "'", why]
  | saving key why => ["saving '" ++ key ++ "'", why]
  | store why => [why]
  | invalidStored e => ["stored configuration is invalid", e.message]

/-- The wording of an error with all its causes. -/
def message (e : Error) : String := ": ".intercalate e.chain

/-- What is wrong with the settings, if that is the cause. -/
def config? : Error → Option ConfigError
  | refused e | invalidStored e => some e
  | _ => none

end Error

variable {σ : Type}

/-- The values of some keys, or the first key that cannot be read. -/
def loadAll (S : Store σ) : List String → σ → Except (String × String) (List (Option String)) × σ
  | [], s => (.ok [], s)
  | key :: keys, s =>
    match S.load key s with
    | (.error why, s) => (.error (key, why), s)
    | (.ok value, s) =>
      match loadAll S keys s with
      | (.error e, s) => (.error e, s)
      | (.ok values, s) => (.ok (value :: values), s)

/-- A key as it was before: with its value, or absent. -/
def putBack (S : Store σ) (s : σ) (entry : String × Option String) : σ :=
  match entry.2 with
  | some value => (S.save entry.1 value s).2
  | none => (S.delete entry.1 s).2

/-- Entries written one after another, each given with its key, the value it had before, and its
new value. If one fails, those in `written` and those before it are put back; that this fails too
is of no consequence. -/
def saveAll (S : Store σ) (written : List (String × Option String)) :
    List (String × Option String × String) → σ → Except Error Unit × σ
  | [], s => (.ok (), s)
  | (key, before, value) :: entries, s =>
    match S.save key value s with
    | (.ok (), s) => saveAll S (written ++ [(key, before)]) entries s
    | (.error why, s) => (.error (.saving key why), written.foldl (putBack S) s)

/-- The values of a session, in the order of the keys. -/
def values (c : Settings) : List String := [c.serverUrl, c.deviceId, c.secret]

/-- Saves settings, if they are valid. -/
def save (S : Store σ) (c : Settings) (s : σ) : Except Error Unit × σ :=
  match c.validate with
  | .error e => (.error (.refused e), s)
  | .ok () =>
    match loadAll S keys s with
    | (.error (key, why), s) => (.error (.reading key why), s)
    | (.ok before, s) => saveAll S [] (keys.zip (before.zip (values c))) s

/-- The settings of a session that is there as a whole, if they are valid. -/
def ofValues : List (Option String) → Except Error (Option Settings)
  | [some serverUrl, some deviceId, some secret] =>
    let settings := Settings.ofTexts serverUrl deviceId secret
    match settings.validate with
    | .ok () => .ok (some settings)
    | .error e => .error (.invalidStored e)
  | _ => .ok none

/-- Loads a session. There is none unless all of its keys are there. -/
def load (S : Store σ) (s : σ) : Except Error (Option Settings) × σ :=
  match loadAll S keys s with
  | (.error (_, why), s) => (.error (.store why), s)
  | (.ok values, s) => (ofValues values, s)

/-- Deletes some keys, up to the first that cannot be deleted. -/
def deleteAll (S : Store σ) : List String → σ → Except Error Unit × σ
  | [], s => (.ok (), s)
  | key :: keys, s =>
    match S.delete key s with
    | (.error why, s) => (.error (.store why), s)
    | (.ok (), s) => deleteAll S keys s

/-- Removes a session. -/
def clear (S : Store σ) (s : σ) : Except Error Unit × σ := deleteAll S keys s

end DeviceAuth.Session
