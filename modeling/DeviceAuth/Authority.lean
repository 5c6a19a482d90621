import DeviceAuth.Credential

/-!
# The authority over devices

A server keeps one seed and no device's secret: the root secret of any device follows from the seed
and the device's name, so the credential can be made again whenever it is needed.
-/

namespace DeviceAuth

/-- The root that a server derives all devices' roots from. -/
structure Authority where
  root : RootKey
deriving DecidableEq

namespace Authority

/-- The shortest seed, in bytes. -/
def minSeedLength : Nat := 32

/-- The authority with a seed. -/
def ofSeed (seed : Octets) : Except KeyError Authority :=
  if seed.length < minSeedLength then .error .invalidServerSeed
  else .ok ⟨⟨Crypto.hkdf seed (Octets.ofString "server.root.v1")⟩⟩

/-- The root secret of a device. -/
def deviceRoot (a : Authority) (device : DeviceId) : RootKey :=
  ⟨Crypto.hkdf a.root.bytes.octets (Octets.ofString ("client.root.v1." ++ device.text))⟩

/-- The credential of the device with this name. -/
def credential (a : Authority) (device : String) : Except KeyError Credential :=
  match DeviceId.parse? device with
  | some device => .ok ⟨a.deviceRoot device, device⟩
  | none => .error .invalidClientId

/-- What is shown of an authority. -/
def redacted : String := "ServerChain \x7b root: " ++ RootKey.redacted ++ " \x7d"

end Authority

end DeviceAuth
