import DeviceAuth.Command.Run
import DeviceAuth.Store.Keychain
import Std.Time.DateTime.Timestamp

/-!
# The program

Looks up the time, the environment, the random bytes and the configuration file, runs the command
that the arguments name, and prints what it ends with.
-/

namespace DeviceAuth.Main

open DeviceAuth.Command

/-- The variables of the environment that may matter. -/
def consulted : List String :=
  ["HOME", "BYTE_CONFIG", "BYTE_LOG", "BYTE_LOG_FORMAT", "BYTE_SERVER_SEED"]

/-- Random bytes enough for any one command. -/
def poolSize : USize := 64

/-- The present instant. -/
def currentInstant : IO Instant := do
  let t := (← Std.Time.Timestamp.now).val
  return (Instant.of? t.second.val t.nano.val.toNat).getD .epoch

/-- The environment. -/
def environment : IO (String → Option String) := do
  let entries ← consulted.filterMapM fun name => do
    return (← IO.getEnv name).map fun value => (name, value)
  return fun name => entries.lookup name

/-- The bytes of a file, if it can be read. -/
def contentOf (path : String) : IO (Option Octets) := do
  try return some (← IO.FS.readBinFile path).data.toList
  catch _ => return none

/-- There is something at a path. -/
def isPresent (path : String) : IO Bool := do
  try
    let _ ← IO.FS.realPath path
    return true
  catch _ => return false

/-- The files that an invocation may load settings from. -/
def filesFor (home : Option String) (invocation : Except Stop Invocation) : IO Files := do
  let path := match invocation with
    | .ok (.check (some path)) => path
    | _ => Settings.defaultPath home
  let target := Settings.expandHome home path
  let present ← isPresent path
  let content ← contentOf target
  return { home, present := fun p => p = path && present
           read := fun p => if p = target then content else none }

/-- The keychain of this build, which keeps nothing. -/
def keychain : Service Unit := ⟨Keychain.defaultService, Keychain.forgetful, true⟩

/-- Runs the program and reports how it ended. -/
def runProgram (args : List String) : IO UInt32 := do
  let env ← environment
  let files ← filesFor (env "HOME") (parse env args)
  let pool := (← IO.getRandomBytes poolSize).data.toList
  let (ending, _, _) :=
    run RandomSource.drawn files keychain (← currentInstant) env args pool ()
  match ending with
  | .done output => IO.print output
  | .failed f => IO.eprint f.report
  | .misuse => IO.eprint help
  return ending.exitCode

end DeviceAuth.Main

/-- The entry point. -/
def main (args : List String) : IO UInt32 := DeviceAuth.Main.runProgram args
