import DeviceAuth.Store.Basic
import DeviceAuth.Table

/-!
# The store in memory

A table that lasts as long as the program. Its calls never fail.
-/

namespace DeviceAuth

/-- The texts in memory. -/
abbrev Memory := Table String String

namespace Memory

/-- The store that a table in memory is. -/
def store : Store Memory where
  save key value m := (.ok (), m.set key value)
  load key m := (.ok (m.lookup key), m)
  delete key m := (.ok (), m.remove key)

/-- What is shown of a store in memory. -/
def redacted (m : Memory) : String :=
  "MemoryStore \x7b entries: " ++ Nat.repr m.length ++ " \x7d"

end Memory

end DeviceAuth
