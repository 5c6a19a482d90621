import DeviceAuth.Config.Error
import DeviceAuth.Key
import DeviceAuth.Text.Base64
import DeviceAuth.Text.Url

/-!
# Settings of a device

What a device needs to talk to its server: the address, its own name and its root secret in
base64. `Settings.validate` is the one gate for all of them.
-/

namespace DeviceAuth

/-- The settings of a device. -/
@[ext] structure Settings where
  serverUrl : String
  deviceId : String
  secret : String
  timeoutSeconds : Nat
deriving DecidableEq

/-- The root secret that a text encodes. -/
def decodeRootKey (secret : String) : Except ConfigError RootKey :=
  match Base64.standard.decode? secret.toList with
  | none => .error (.invalidSecret "must be valid base64")
  | some bytes =>
    match Block.ofOctets? 32 bytes with
    | some b => .ok ⟨b⟩
    | none =>
      .error (.invalidSecret
        ("decodes to " ++ Nat.repr bytes.length ++ " bytes, expected 32"))

/-- The text that encodes a root secret. -/
def encodeRootKey (root : RootKey) : String :=
  String.ofList (Base64.standard.encode root.bytes.octets)

/-- Refuses an address without a scheme and an authority. -/
def validateServerUrl (url : String) : Except ConfigError Unit :=
  if Url.isAbsolute url then .ok () else .error (.invalidServerUrl url)

namespace Settings

/-- How long to wait for an answer, if nothing else is said. -/
def defaultTimeout : Nat := 30

/-- Settings with the usual timeout. -/
def ofTexts (serverUrl deviceId secret : String) : Settings :=
  ⟨serverUrl, deviceId, secret, defaultTimeout⟩

/-- What holds where nothing is said. -/
def default : Settings := ofTexts "http://localhost:8080" "" ""

/-- The root secret. -/
def rootKey (s : Settings) : Except ConfigError RootKey := decodeRootKey s.secret

/-- Refuses settings for the first of these that is wrong: the device's name, the secret, the
address. -/
def validate (s : Settings) : Except ConfigError Unit := do
  if (DeviceId.parse? s.deviceId).isNone then throw (.invalidDeviceId s.deviceId)
  let _ ← s.rootKey
  validateServerUrl s.serverUrl

/-- What is shown of settings. -/
def redacted (s : Settings) : String :=
  "ClientConfig \x7b server_url: " ++ Text.quoted s.serverUrl
    ++ ", device_id: " ++ Text.quoted s.deviceId
    ++ ", secret: SecretBox<str>([REDACTED]), timeout_secs: " ++ Nat.repr s.timeoutSeconds
    ++ " \x7d"

end Settings

end DeviceAuth
