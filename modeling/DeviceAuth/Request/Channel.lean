import DeviceAuth.Config.Settings
import DeviceAuth.Credential

/-!
# Channels to a server

A channel is an address together with the credential that signs every request sent there. Opening
one connects to nothing yet.
-/

namespace DeviceAuth

/-- Where requests go, how long an answer is waited for, and who signs them. -/
structure Channel where
  address : Url
  timeoutSeconds : Nat
  credential : Credential

/-- Why no channel was opened. -/
inductive ChannelError
  | config (e : ConfigError)
  | key (e : KeyError)
  | transport (why : String)

/-- The wording of an error. -/
def ChannelError.message : ChannelError → String
  | config e => e.message
  | key e => "building client chain: " ++ e.message
  | transport why => "transport: " ++ why

namespace Channel

/-- The address that a text is. -/
def addressOf (url : String) : Except ChannelError Url :=
  match if Url.isAbsolute url then Url.split? url.toList else none with
  | some address => .ok address
  | none => .error (.transport "invalid URI")

/-- A channel with these settings. -/
def connect (s : Settings) : Except ChannelError Channel := do
  s.validate.mapError .config
  let root ← s.rootKey.mapError .config
  let credential ← (Credential.ofParts root.bytes.octets s.deviceId).mapError .key
  let address ← addressOf s.serverUrl
  return { address, timeoutSeconds := s.timeoutSeconds, credential }

end Channel

end DeviceAuth
