import DeviceAuth.Command.Arguments
import DeviceAuth.Command.Devices
import DeviceAuth.Command.Settings
import DeviceAuth.Command.Tokens

/-!
# Running the program

From the arguments to what is printed. All that a command finds around it, the time, the files, the
keychain and the random bytes, is given to it.
-/

namespace DeviceAuth.Command

variable {ρ σ : Type}

/-- Does what was asked for at an instant; an instant that was asked for goes first. -/
def perform (R : RandomSource ρ) (F : Files) (K : Service σ) (now : Instant) :
    Invocation → ρ → σ → Except Failure String × ρ × σ
  | .generateToken root device time, r, s =>
    let (result, r) := generateToken R root device (time.getD now) r
    (result, r, s)
  | .decryptToken root device token time, r, s =>
    (decryptToken root device token (time.getD now), r, s)
  | .provision seed serverUrl device, r, s =>
    let (result, r) := provision R seed serverUrl device r
    (result, r, s)
  | .check path, r, s => check R F K path now r s
  | .importSession payload, r, s =>
    let (result, s) := importSession K payload s
    (result, r, s)
  | .clear, r, s =>
    let (result, s) := clear K s
    (result, r, s)

/-- How a run of the program ends. -/
inductive Ending
  /-- Something is printed and all is well. -/
  | done (output : String)
  | failed (f : Failure)
  /-- The arguments ask for nothing that there is. -/
  | misuse

/-- The name of the program and its version. -/
def version : String := "byte 0.3.0"

/-- A short help. -/
def help : String :=
  "Usage: byte [OPTIONS] <COMMAND>\n\nCommands:\n"
    ++ "  debug generate token <ROOT_KEY> <CLIENT_ID> [--at <TIME>]\n"
    ++ "  debug decrypt-token <ROOT_KEY> <CLIENT_ID> <TOKEN> [--at <TIME>]\n"
    ++ "  device provision <SERVER_SEED> [--server-url <URL>] [--device-id <ID>]\n"
    ++ "  config check\n  config import <PAYLOAD>\n  config clear\n\nOptions:\n"
    ++ "  -c, --config <PATH>\n      --log <LEVEL>\n      --log-format <json|text>\n"
    ++ "  -h, --help\n  -V, --version\n"

/-- The exit code that an ending is reported with. -/
def Ending.exitCode : Ending → UInt32
  | done _ => 0
  | failed _ => 1
  | misuse => 2

/-- A run of the program. -/
def run (R : RandomSource ρ) (F : Files) (K : Service σ) (now : Instant)
    (env : String → Option String) (args : List String) (r : ρ) (s : σ) : Ending × ρ × σ :=
  match parse env args with
  | .error .help => (.done help, r, s)
  | .error .version => (.done (version ++ "\n"), r, s)
  | .error .misuse => (.misuse, r, s)
  | .ok invocation =>
    match perform R F K now invocation r s with
    | (.ok output, r, s) => (.done output, r, s)
    | (.error f, r, s) => (.failed f, r, s)

end DeviceAuth.Command
