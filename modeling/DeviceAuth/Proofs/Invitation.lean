import Mathlib.Tactic.Common
import DeviceAuth.Config.Invitation
import DeviceAuth.Proofs.JsonRecord

/-!
# Invitations written and read

An invitation is read back as it was written, whatever its three texts are (`ofJson_toJson`).
-/

namespace DeviceAuth.Invitation

def members (i : Invitation) : List (String × String) :=
  [("serverUrl", i.serverUrl), ("deviceId", i.deviceId), ("secret", i.secret)]

theorem new_members (i : Invitation) : schema.New [] i.members where
  known := by simp [members, schema]
  nodup := by simp [members]
  new := by simp

theorem values?_members (i : Invitation) : schema.values? i.members = some i.members := by
  simp [Json.Schema.values?, members, schema]

/-- Nothing is lost on the way through JSON. -/
theorem ofJson_toJson (i : Invitation) : ofJson i.toJson = .ok i := by
  have hread : schema.read (Octets.ofString i.toJson) = schema.outcome [] i.members :=
    schema.read_object i.new_members
  have hfinish : schema.finish (i.members.reverse ++ []) = .ok i := rfl
  simp only [ofJson, hread, Json.Schema.outcome, values?_members, hfinish]

end DeviceAuth.Invitation
