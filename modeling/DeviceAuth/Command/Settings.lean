import DeviceAuth.Command.Failure
import DeviceAuth.Config.File
import DeviceAuth.Config.Invitation

/-!
# Commands about settings

A device has its settings from a file or, if there is none, from the session in its keychain. An
invitation is taken by saving it as the session; since a keychain may lose what it was given, part
of the session is read back.
-/

namespace DeviceAuth.Command

variable {ρ σ : Type}

/-- The files that settings may be loaded from. -/
structure Files where
  home : Option String
  /-- There is a file or directory at a path. -/
  present : String → Bool
  /-- The bytes of the file at a path. -/
  read : String → Option Octets

/-- A keychain's entries of one service. -/
structure Service (σ : Type) where
  name : String
  store : Store σ
  available : Bool

/-- The file to load settings from: the one at this path or else the usual one, if it is there. -/
def Files.locate (F : Files) : Option String → Option String
  | some path => some path
  | none =>
    let usual := Settings.defaultPath F.home
    if F.present usual then some usual else none

/-- A device's settings and where they are from. -/
def findSettings (F : Files) (K : Service σ) (path : Option String) (s : σ) :
    Except Failure (Settings × String) × σ :=
  match F.locate path with
  | some path =>
    match Settings.ofFile (F.read (Settings.expandHome F.home path)) with
    | .ok settings => (.ok (settings, path), s)
    | .error e => (.error (.file e), s)
  | none =>
    match Session.load K.store s with
    | (.error e, s) => (.error (.session e), s)
    | (.ok none, s) => (.error (.noSettings K.name), s)
    | (.ok (some settings), s) => (.ok (settings, "keychain (" ++ K.name ++ ")"), s)

/-- What is shown of settings with which a token was minted. -/
def showSettings (c : Settings) (source token : String) : String :=
  "# Configuration from: " ++ source ++ "\n"
    ++ "server_url   = " ++ c.serverUrl ++ "\n"
    ++ "device_id    = " ++ c.deviceId ++ "\n"
    ++ "timeout_secs = " ++ Nat.repr c.timeoutSeconds ++ "\n"
    ++ "token        = ok (" ++ Nat.repr token.utf8ByteSize ++ " chars)\n"

/-- The credential that settings hold, if they are valid. -/
def credentialIn (c : Settings) : Except Failure Credential := do
  c.validate.mapError .settings
  let root ← c.rootKey.mapError .settings
  (Credential.ofParts root.bytes.octets c.deviceId).mapError .testKey

/-- Tries settings out: they are valid, a token can be minted, and a channel can be opened. -/
def tryOut (R : RandomSource ρ) (c : Settings) (source : String) (now : Instant) (r : ρ) :
    Except Failure String × ρ :=
  match credentialIn c with
  | .error e => (.error e, r)
  | .ok credential =>
    match credential.mint R now r with
    | (.error e, r) => (.error (.testToken e), r)
    | (.ok token, r) =>
      match Channel.connect c with
      | .error e => (.error (.channel e), r)
      | .ok _ => (.ok (showSettings c source token), r)

/-- Loads a device's settings and tries them out. -/
def check (R : RandomSource ρ) (F : Files) (K : Service σ) (path : Option String) (now : Instant)
    (r : ρ) (s : σ) : Except Failure String × ρ × σ :=
  match findSettings F K path s with
  | (.error e, s) => (.error e, r, s)
  | (.ok (settings, source), s) =>
    let (result, r) := tryOut R settings source now r
    (result, r, s)

/-- Takes an invitation: its settings become the session. -/
def importSession (K : Service σ) (payload : String) (s : σ) : Except Failure String × σ :=
  match Settings.ofInvitation payload with
  | .error e => (.error (.settings e), s)
  | .ok c =>
    if ! K.available then (.error .noKeychain, s)
    else
      match Session.save K.store c s with
      | (.error e, s) => (.error (.session e), s)
      | (.ok (), s) =>
        match K.store.load Session.deviceIdKey s with
        | (.error why, s) => (.error (.keychain why), s)
        | (.ok none, s) => (.error .notPersisted, s)
        | (.ok (some _), s) =>
          (.ok ("Stored device " ++ c.deviceId ++ " in keychain '" ++ K.name ++ "'\n"), s)

/-- Removes the session. -/
def clear (K : Service σ) (s : σ) : Except Failure String × σ :=
  match Session.clear K.store s with
  | (.error e, s) => (.error (.session e), s)
  | (.ok (), s) => (.ok "Device session removed from keychain\n", s)

end DeviceAuth.Command
