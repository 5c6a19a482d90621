import DeviceAuth.Request.Channel
import DeviceAuth.Session

/-!
# Failures of commands

A failing command says what it could not do and, where something else was to blame, what that was.
-/

namespace DeviceAuth.Command

/-- Why a command failed. -/
inductive Failure
  | rootKey (e : ConfigError)
  | credential (e : KeyError)
  | minting (e : MintError)
  | rejected (e : TokenError)
  | seed (e : KeyError)
  | deviceId (e : IdentityError)
  | noDeviceId (why : String)
  | invitation (e : ConfigError)
  | settings (e : ConfigError)
  /-- The configuration file was not loaded. -/
  | file (e : ConfigError)
  /-- There is neither a configuration file nor a session. -/
  | noSettings (service : String)
  | testKey (e : KeyError)
  | testToken (e : MintError)
  | channel (e : ChannelError)
  | noKeychain
  | session (e : Session.Error)
  | keychain (why : String)
  | notPersisted

namespace Failure

/-- What went wrong and, after it, what caused it. -/
def chain : Failure → List String
  | rootKey e => ["invalid root key", e.message]
  | credential e => ["failed to create client chain", e.message]
  | minting e => ["failed to generate token", e.message]
  | rejected e => ["token rejected", e.message]
  | seed e => ["invalid server seed", e.message]
  | deviceId e => ["invalid --device-id", e.message]
  | noDeviceId why => ["failed to generate device ID", why]
  | invitation e => ["refusing to emit invalid provisioning payload", e.message]
  | settings e => [e.message]
  | file e => [(ProgramError.config e).message, e.message]
  | noSettings service =>
    [(ProgramError.secrets ("no device session in keychain service '" ++ service ++ "'")).message]
  | testKey e => [e.message]
  | testToken e => ["minting test token", e.message]
  | channel e => ["building channel", e.message]
  | noKeychain => ["platform keychain is not available"]
  | session e => e.chain
  | keychain why => [why]
  | notPersisted => ["keychain did not persist the session"]

/-- What went wrong. -/
def message (f : Failure) : String := f.chain.headD ""

/-- What caused it, the nearest cause first. -/
def causes (f : Failure) : List String := f.chain.tail

/-- A failure as it is reported to a person. -/
def report (f : Failure) : String :=
  "Error: " ++ f.message ++ "\n"
    ++ (match f.causes with
      | [] => ""
      | [cause] => "\nCaused by:\n    " ++ cause ++ "\n"
      | causes => "\nCaused by:\n" ++ String.join (numbered 0 causes))
where
  /-- Causes on lines of their own, counted from `n`. -/
  numbered (n : Nat) : List String → List String
    | [] => []
    | cause :: causes => ("    " ++ Nat.repr n ++ ": " ++ cause ++ "\n") :: numbered (n + 1) causes

end Failure

end DeviceAuth.Command
