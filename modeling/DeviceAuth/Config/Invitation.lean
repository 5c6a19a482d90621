import DeviceAuth.Config.Settings
import DeviceAuth.Json.Record

/-!
# Invitations

What a server hands to a new device: the three texts that its settings are made of, as JSON.
-/

namespace DeviceAuth

/-- The texts of a new device's settings. -/
@[ext] structure Invitation where
  serverUrl : String
  deviceId : String
  secret : String
deriving DecidableEq

namespace Invitation

/-- An invitation on one line. -/
def toJson (i : Invitation) : String :=
  String.ofList (Json.object
    [("serverUrl", i.serverUrl), ("deviceId", i.deviceId), ("secret", i.secret)])

/-- Invitations as records. -/
def schema : Json.Schema String Invitation where
  fields := ["serverUrl", "deviceId", "secret"]
  value? := some
  build member := do
    return { serverUrl := ← member "serverUrl", deviceId := ← member "deviceId",
             secret := ← member "secret" }

/-- The invitation that a text holds. -/
def ofJson (json : String) : Except ConfigError Invitation :=
  match schema.read (Octets.ofString json) with
  | .ok i => .ok i
  | .error fault => .error (.load (fault.append "parsing provisioning payload"))

/-- The settings of the device that takes an invitation. -/
def settings (i : Invitation) : Settings := .ofTexts i.serverUrl i.deviceId i.secret

/-- What is shown of an invitation. -/
def redacted (i : Invitation) : String :=
  "ProvisioningPayload \x7b server_url: " ++ Text.quoted i.serverUrl
    ++ ", device_id: " ++ Text.quoted i.deviceId ++ ", secret: \"[REDACTED]\" \x7d"

end Invitation

/-- The settings that a text invites a device to, if they are valid. -/
def Settings.ofInvitation (json : String) : Except ConfigError Settings := do
  let settings := (← Invitation.ofJson json).settings
  settings.validate
  return settings

end DeviceAuth
