import DeviceAuth.Config.Settings
import DeviceAuth.Time.Timestamp

/-!
# Command-line arguments

The program's commands form a tree: groups hold further commands, actions do something. Every
command on the way down takes options of its own besides those that are allowed everywhere, and an
option that is not given has its value from an environment variable or its usual value.
-/

namespace DeviceAuth.Command

/-- A command that only holds others. -/
inductive Group
  | top
  | debug
  | generate
  | device
  | config
deriving DecidableEq

/-- A command that does something. -/
inductive Action
  | generateToken
  | decryptToken
  | provision
  | check
  | importSession
  | clear
deriving DecidableEq

/-- A command of either kind. -/
inductive Place
  | group (g : Group)
  | action (a : Action)
deriving DecidableEq

/-- The command of this name in a group. -/
def Group.next? : Group → String → Option Place
  | .top, "debug" => some (.group .debug)
  | .top, "device" => some (.group .device)
  | .top, "config" => some (.group .config)
  | .debug, "generate" => some (.group .generate)
  | .debug, "decrypt-token" => some (.action .decryptToken)
  | .generate, "token" => some (.action .generateToken)
  | .device, "provision" => some (.action .provision)
  | .config, "check" => some (.action .check)
  | .config, "import" => some (.action .importSession)
  | .config, "clear" => some (.action .clear)
  | _, _ => none

/-- How many arguments a command takes, its options apart. -/
def Place.arity : Place → Nat
  | .action .generateToken => 2
  | .action .decryptToken => 3
  | .action .provision | .action .importSession => 1
  | _ => 0

/-- An option that takes a value. -/
inductive Setting
  | config
  | log
  | logFormat
  | instant
  | serverUrl
  | deviceId
deriving DecidableEq

namespace Setting

/-- The option with this long name, at a command that takes it. -/
def named? : Place → String → Option Setting
  | _, "config" => some config
  | _, "log" => some log
  | _, "log-format" => some logFormat
  | .action .generateToken, "at" | .action .decryptToken, "at" => some instant
  | .action .provision, "server-url" => some serverUrl
  | .action .provision, "device-id" => some deviceId
  | _, _ => none

/-- The environment variable that stands in for an option. -/
def envName? : Setting → Option String
  | config => some "BYTE_CONFIG"
  | log => some "BYTE_LOG"
  | logFormat => some "BYTE_LOG_FORMAT"
  | _ => none

/-- The options that are allowed everywhere. -/
def everywhere : List Setting := [config, log, logFormat]

/-- A text is a possible value of an option. -/
def accepts : Setting → String → Bool
  | config, value => value ≠ ""
  | logFormat, value => value = "json" || value = "text"
  | instant, value => (Timestamp.read? value.toList).isSome
  | _, _ => true

end Setting

/-- What the program is asked to do, with all that it needs to know. -/
inductive Invocation
  | generateToken (root device : String) (time : Option Instant)
  | decryptToken (root device token : String) (time : Option Instant)
  | provision (seed serverUrl : String) (device : Option String)
  | check (path : Option String)
  | importSession (payload : String)
  | clear

/-- How reading the arguments ends, if not with something to do. -/
inductive Stop
  | help
  | version
  | misuse
deriving DecidableEq

/-- What an argument is by its form. -/
inductive Word
  /-- All arguments after this one are plain. -/
  | literally
  | long (name : String) (value : Option String)
  | short (letter : Char) (rest : List Char)
  | plain

/-- The form of an argument. -/
def Word.ofChars : List Char → Word
  | ['-', '-'] => .literally
  | '-' :: '-' :: s =>
    .long (String.ofList (s.takeWhile (· ≠ '=')))
      (match s.dropWhile (· ≠ '=') with
        | [] => none
        | _ :: value => some (String.ofList value))
  | '-' :: letter :: rest => .short letter rest
  | _ => .plain

/-- What has been given to one command. The value of an option is not looked at before the next
argument of the same command. -/
structure Level where
  place : Place
  settled : List (Setting × String)
  held : Option (Setting × String)
  arguments : List String

namespace Level

/-- A command that has been given nothing yet. -/
def start (place : Place) : Level := ⟨place, [], none, []⟩

/-- The option is given for the first time, with a possible value. -/
def settle (l : Level) : Except Stop Level :=
  match l.held with
  | none => .ok l
  | some (o, value) =>
    if (l.settled.lookup o).isNone && o.accepts value then
      .ok { l with settled := (o, value) :: l.settled, held := none }
    else .error .misuse

/-- The options that are left to the environment have possible values there, if any. -/
def environmentFits (env : String → Option String) (l : Level) : Bool :=
  Setting.everywhere.all fun o =>
    (l.settled.lookup o).isSome || ((o.envName? >>= env).all o.accepts)

end Level

/-- How far the arguments have been read: the commands on the way down, the innermost apart; an
option that waits for its value; and whether all that follows is plain. -/
structure Reading where
  outer : List Level
  level : Level
  waiting : Option Setting
  literally : Bool

namespace Reading

/-- Nothing has been read. -/
def start : Reading := ⟨[], .start (.group .top), none, false⟩

/-- An option, with its value if that was attached to it. -/
def option (r : Reading) (o : Setting) (value : Option String) : Except Stop Reading := do
  let level ← r.level.settle
  match value with
  | none => return { r with level, waiting := some o }
  | some value =>
    return { r with level := ← { level with held := some (o, value) : Level }.settle }

/-- A flag that ends the reading. -/
def flag (r : Reading) (stop : Stop) : Except Stop Reading := do
  let _ ← r.level.settle
  throw stop

/-- An option or flag by its long name. -/
def long (r : Reading) (name : String) (value : Option String) : Except Stop Reading :=
  match Setting.named? r.level.place name, value with
  | some o, value => r.option o value
  | none, some _ => .error .misuse
  | none, none =>
    if name = "help" then r.flag .help
    else if name = "version" ∧ r.level.place = .group .top then r.flag .version
    else .error .misuse

/-- An option or flag by its letter. What follows the letter is the option's value, with or without
a sign of equality before it. -/
def short (r : Reading) (letter : Char) (rest : List Char) : Except Stop Reading :=
  if letter = 'c' then
    r.option .config
      (match rest with
        | [] => none
        | '=' :: value => some (String.ofList value)
        | value => some (String.ofList value))
  else if letter = 'h' then r.flag .help
  else if letter = 'V' ∧ r.level.place = .group .top then r.flag .version
  else .error .misuse

/-- An argument of the command itself. -/
def argument (r : Reading) (arg : String) : Except Stop Reading :=
  if r.level.arguments.length < r.level.place.arity then
    .ok { r with level := { r.level with arguments := r.level.arguments ++ [arg] } }
  else .error .misuse

/-- The command that is entered by a name. -/
def enter? (r : Reading) (name : String) : Option Reading :=
  match r.level.place with
  | .group g =>
    (g.next? name).map fun place => { r with outer := r.level :: r.outer, level := .start place }
  | .action _ => none

/-- One more argument. -/
def step (r : Reading) (arg : String) : Except Stop Reading :=
  if r.literally then r.argument arg
  else
    match Word.ofChars arg.toList, r.waiting with
    | .plain, some o =>
      .ok { r with level := { r.level with held := some (o, arg) }, waiting := none }
    | _, some _ => .error .misuse
    | .plain, none => (r.enter? arg).elim (r.argument arg) .ok
    | .literally, none => .ok { r with literally := true }
    | .long name value, none => r.long name value
    | .short letter rest, none => r.short letter rest

/-- The argument asks for help about the commands named after it. -/
def asksForHelp (r : Reading) (arg : String) : Bool :=
  arg = "help" && r.waiting.isNone && ! r.literally
    && (match r.level.place with
      | .group _ => true
      | .action _ => false)

end Reading

/-- Help about the command that the names lead to. Help itself is a command of every group. -/
def helpOn : Place → List String → Stop
  | _, [] => .help
  | .group g, name :: names =>
    match g.next? name with
    | some place => helpOn place names
    | none => if name = "help" ∧ names = [] then .help else .misuse
  | .action _, _ :: _ => .misuse

/-- All the arguments. -/
def readAll (r : Reading) : List String → Except Stop Reading
  | [] => .ok r
  | arg :: args =>
    if r.asksForHelp arg then .error (helpOn r.level.place args)
    else do readAll (← r.step arg) args

/-- The value of an option: as given to the innermost command that it was given to, or as the
environment has it. -/
def valueOf (env : String → Option String) (levels : List Level) (o : Setting) : Option String :=
  levels.findSome? (fun l => l.settled.lookup o) <|> (o.envName? >>= env)

/-- What there is to do once everything has been read. -/
def invocation (env : String → Option String) (r : Reading) : Except Stop Invocation := do
  let level ← r.level.settle
  let outer ← r.outer.mapM Level.settle
  let levels := level :: outer
  if r.waiting.isSome || ! levels.all (Level.environmentFits env) then throw .misuse
  let value := valueOf env levels
  let time := value .instant >>= fun s => Timestamp.read? s.toList
  match level.place, level.arguments with
  | .action .generateToken, [root, device] => return .generateToken root device time
  | .action .decryptToken, [root, device, token] => return .decryptToken root device token time
  | .action .provision, arguments =>
    match arguments.head? <|> env "BYTE_SERVER_SEED" with
    | some seed =>
      return .provision seed ((value .serverUrl).getD Settings.default.serverUrl)
        (value .deviceId)
    | none => throw .misuse
  | .action .check, _ => return .check (value .config)
  | .action .importSession, [payload] => return .importSession payload
  | .action .clear, _ => return .clear
  | _, _ => throw .misuse

/-- What the arguments ask for. -/
def parse (env : String → Option String) (args : List String) : Except Stop Invocation := do
  invocation env (← readAll .start args)

end DeviceAuth.Command
