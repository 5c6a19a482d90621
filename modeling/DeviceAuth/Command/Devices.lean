import DeviceAuth.Authority
import DeviceAuth.Command.Failure
import DeviceAuth.Config.Invitation

/-!
# Commands about devices

A server invites a device by handing it its root secret. An invitation is not given out unless the
device would accept it.
-/

namespace DeviceAuth.Command

variable {ρ : Type}

/-- An invitation for a device to a server at an address. -/
def invite (a : Authority) (serverUrl : String) (device : DeviceId) :
    Except Failure Invitation := do
  let invitation : Invitation := ⟨serverUrl, device.text, encodeRootKey (a.deviceRoot device)⟩
  invitation.settings.validate.mapError .invitation
  return invitation

/-- The device of this name or, if there is no name, a new one. -/
def chooseDevice (R : RandomSource ρ) (device : Option String) (r : ρ) :
    Except Failure DeviceId × ρ :=
  match device with
  | some text => ((DeviceId.parse text).mapError .deviceId, r)
  | none =>
    match R.fill 16 r with
    | (.error why, r) => (.error (.noDeviceId why), r)
    | (.ok bytes, r) =>
      match DeviceId.generate? bytes with
      | some device => (.ok device, r)
      | none => (.error (.deviceId .invalidIdentity), r)

/-- Invites a device to the server with a seed. -/
def provision (R : RandomSource ρ) (seed serverUrl : String) (device : Option String) (r : ρ) :
    Except Failure String × ρ :=
  match Authority.ofSeed (.ofString seed) with
  | .error e => (.error (.seed e), r)
  | .ok a =>
    match chooseDevice R device r with
    | (.error e, r) => (.error e, r)
    | (.ok device, r) => ((invite a serverUrl device).map fun i => i.toJson ++ "\n", r)

end DeviceAuth.Command
