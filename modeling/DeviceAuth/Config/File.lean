import DeviceAuth.Config.Settings
import DeviceAuth.Octets
import DeviceAuth.Toml.Document

/-!
# The configuration file

Settings are kept in a TOML file. Those that it does not mention have their usual values, and what
it mentions beyond them is ignored. Loading checks the form of the file only; whether the settings
are any good is for `Settings.validate` to say.
-/

namespace DeviceAuth.Settings

/-- A text setting, or its usual value. -/
def textOr (usual : String) : Option Toml.Node → Option String
  | none => some usual
  | some (.text s) => some s
  | some _ => none

/-- A setting that counts something, or its usual value. -/
def countOr (usual : Nat) : Option Toml.Node → Option Nat
  | none => some usual
  | some (.integer n) => if 0 ≤ n then some n.toNat else none
  | some _ => none

/-- The settings in a document. The device's name has two keys, of which one may be there. -/
def ofToml? (document : String) : Option Settings := do
  let entries ← Toml.parse? document
  let serverUrl ← textOr default.serverUrl (entries.lookup "server_url")
  let device ← match entries.lookup "device_id", entries.lookup "id" with
    | some _, some _ => none
    | some node, none => some (some node)
    | none, node => some node
  let deviceId ← textOr default.deviceId device
  let secret ← textOr default.secret (entries.lookup "secret")
  let timeoutSeconds ← countOr default.timeoutSeconds (entries.lookup "timeout_secs")
  return { serverUrl, deviceId, secret, timeoutSeconds }

/-- The settings in a file, if there is a file, given its bytes. -/
def ofFile (content : Option Octets) : Except ConfigError Settings :=
  match content >>= Octets.text? with
  | none => .error (.load "reading")
  | some document =>
    match ofToml? document with
    | some settings => .ok settings
    | none => .error (.load "parsing")

/-- A path without the separators, and the names for the same directory, that it begins with. -/
def dropSeparators : List Char → List Char
  | '/' :: path => dropSeparators path
  | '.' :: '/' :: path => dropSeparators path
  | ['.'] => []
  | path => path

/-- What a path has after the `~` that it begins with, without separators around it. -/
def belowHome? : List Char → Option (List Char)
  | ['~'] => some []
  | '~' :: '/' :: path => some (dropSeparators (dropSeparators path).reverse).reverse
  | _ => none

/-- A path with `~` at its start replaced by the home directory, if that is known. -/
def expandHome (home : Option String) (path : String) : String :=
  match home, belowHome? path.toList with
  | some home, some rest =>
    if home = "" ∨ home.toList.getLast? = some '/' then home ++ String.ofList rest
    else home ++ "/" ++ String.ofList rest
  | _, _ => path

/-- Where the file is, if nothing else is said. -/
def defaultPath (home : Option String) : String := expandHome home "~/.byte/config.toml"

end DeviceAuth.Settings
