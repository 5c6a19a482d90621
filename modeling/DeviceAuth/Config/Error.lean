import DeviceAuth.Identity
import DeviceAuth.Text.Quoted

/-!
# What can be wrong with a configuration
-/

namespace DeviceAuth

/-- Why a configuration is refused. A bad secret is described and never shown. -/
inductive ConfigError
  | invalidDeviceId (text : String)
  | invalidSecret (why : String)
  | invalidServerUrl (text : String)
  | load (what : String)
deriving DecidableEq

/-- The wording of an error. -/
def ConfigError.message : ConfigError → String
  | invalidDeviceId text => "invalid device ID: " ++ text ++ ". Must be a valid UUID v4"
  | invalidSecret why => "invalid secret: " ++ why
  | invalidServerUrl text => "invalid server URL: " ++ Text.quoted text
  | load what => "loading configuration: " ++ what

/-- Any error that a user of the program may meet. -/
inductive ProgramError
  | identity (e : IdentityError)
  | config (e : ConfigError)
  | secrets (why : String)
  | io (why : String)
  | other (why : String)

/-- The wording of an error. -/
def ProgramError.message : ProgramError → String
  | identity e => "identity error: " ++ e.message
  | config e => "config error: " ++ e.message
  | secrets why => "secrets error: " ++ why
  | io why => "I/O error: " ++ why
  | other why => why

end DeviceAuth
