import ThingLink.Config.Layers

/-!
# The command line

Arguments are taken from left to right.  An option gets its value from the same
argument or from the next one, and a value from the next argument is looked at only
when another option, a switch or the end of the line follows it.
-/

namespace ThingLink

open Text (decimal signedDecimal readSigned readUnsigned)

/-! ## Options and switches -/

inductive CliOption where
  | file
  | id
  | name
  | schema
  | data
  | host
  | port
  | timeout
  | backoff
  | config
  deriving DecidableEq, Repr

namespace CliOption

def all : List CliOption :=
  [file, id, name, schema, data, host, port, timeout, backoff, config]

def word : CliOption → String
  | file => "file"
  | id => "id"
  | name => "name"
  | schema => "schema"
  | data => "data"
  | host => "host"
  | port => "port"
  | timeout => "timeout"
  | backoff => "backoff"
  | config => "config"

def letter? : CliOption → Option Char
  | file => some 'f'
  | id => some 'i'
  | name => some 'n'
  | schema => some 's'
  | data => some 'd'
  | host => some 'H'
  | port => some 'p'
  | config => some 'c'
  | timeout | backoff => none

def valueName : CliOption → String
  | file => "FILE"
  | id => "ID"
  | name => "NAME"
  | schema => "SCHEMA_FILE"
  | data => "DATA_FILE"
  | host => "HOST"
  | port => "PORT"
  | timeout => "SECS"
  | backoff => "MS"
  | config => "CONFIG"

def usage (o : CliOption) : String :=
  "--" ++ o.word ++ " <" ++ o.valueName ++ ">"

end CliOption

inductive CliSwitch where
  | strict
  | once
  | debug
  | help
  | version
  deriving DecidableEq, Repr

namespace CliSwitch

def all : List CliSwitch :=
  [strict, once, debug, help, version]

def word : CliSwitch → String
  | strict => "strict"
  | once => "once"
  | debug => "debug"
  | help => "help"
  | version => "version"

def letter? : CliSwitch → Option Char
  | help => some 'h'
  | version => some 'V'
  | strict | once | debug => none

def usage (s : CliSwitch) : String :=
  "--" ++ s.word

end CliSwitch

/-! ## Ends of a command line -/

inductive UsageError where
  | unknownArgument (argument : String)
  | missingValue (option : CliOption)
  | badValue (option : CliOption) (value reason : String)
  /-- An option or a switch, as it is shown, comes twice. -/
  | repeated (usage : String)
  | unwantedValue (switch : CliSwitch) (value : String)
  deriving DecidableEq, Repr

def UsageError.message : UsageError → String
  | unknownArgument argument => "error: unexpected argument '" ++ argument ++ "' found"
  | missingValue option =>
      "error: a value is required for '" ++ option.usage ++ "' but none was supplied"
  | badValue option value reason =>
      "error: invalid value '" ++ value ++ "' for '" ++ option.usage ++ "': " ++ reason
  | repeated usage => "error: the argument '" ++ usage ++ "' cannot be used multiple times"
  | unwantedValue switch value =>
      "error: unexpected value '" ++ value ++ "' for '" ++ switch.usage
        ++ "' found; no more were expected"

inductive CliStop where
  | usage (error : UsageError)
  | help
  | version
  deriving DecidableEq, Repr

def versionText : String := "knot-thing 0.1.0\n"

/-- What `--help` prints, where `configured` is the value of the variable that names a
configuration file. -/
def helpText (configured : String) : String :=
  String.intercalate "\n"
    ["Simulates a thing connecting to a KNoT gateway",
     "",
     "Usage: knot-thing [OPTIONS]",
     "",
     "Options:",
     "  -f, --file <FILE>           Read credentials from and write them to FILE",
     "  -i, --id <ID>               Thing id, decimal or 0x-prefixed hex",
     "  -n, --name <NAME>           Thing name",
     "  -s, --schema <SCHEMA_FILE>  Schema file",
     "  -d, --data <DATA_FILE>      Data file, required with --schema",
     "  -H, --host <HOST>           Gateway host",
     "  -p, --port <PORT>           Gateway port",
     "      --timeout <SECS>        Receive timeout in seconds",
     "      --backoff <MS>          Delay between registration attempts in milliseconds",
     "      --strict                Stop on permanent rejections and lost connections instead of retrying",
     "  -c, --config <CONFIG>       YAML configuration file [env: KNOT_THING_CONFIG="
        ++ configured ++ "]",
     "      --once                  Exit after the handshake instead of holding the connection open",
     "      --debug                 Show debug messages",
     "  -h, --help                  Print help",
     "  -V, --version               Print version",
     ""]

/-! ## Values -/

def portBounds : String := "0..=65535"

/-- Reads a port; a number that is none is told apart from a text that is no number. -/
def readPortValue (value : String) : Except String UInt16 :=
  match readSigned (UInt64.size / 2) value.toList with
  | .error e => .error e.message
  | .ok n =>
      if 0 ≤ n && n < UInt16.size then .ok (UInt16.ofNat n.toNat)
      else .error (signedDecimal n ++ " is not in " ++ portBounds)

def readWordValue (value : String) : Except String UInt64 :=
  match readUnsigned 10 UInt64.size value.toList with
  | .error e => .error e.message
  | .ok n => .ok (UInt64.ofNat n)

def readIdValue (value : String) : Except String UInt64 :=
  match readDeviceId value with
  | .error e => .error e.message
  | .ok id => .ok id

namespace Flags

def has (flags : Flags) : CliOption → Bool
  | .file => flags.credentialsFile.isSome
  | .id => flags.id.isSome
  | .name => flags.name.isSome
  | .schema => flags.schema.isSome
  | .data => flags.data.isSome
  | .host => flags.host.isSome
  | .port => flags.port.isSome
  | .timeout => flags.timeout.isSome
  | .backoff => flags.backoff.isSome
  | .config => flags.config.isSome

/-- The flags with the value of an option.  A path is never empty. -/
def set (flags : Flags) (o : CliOption) (value : String) : Except CliStop Flags :=
  let path (f : Flags) : Except CliStop Flags :=
    if value.isEmpty then .error (.usage (.missingValue o)) else .ok f
  let parsed {α : Type} (read : String → Except String α) (f : α → Flags) : Except CliStop Flags :=
    match read value with
    | .ok a => .ok (f a)
    | .error reason => .error (.usage (.badValue o value reason))
  match o with
  | .file => path { flags with credentialsFile := some value }
  | .schema => path { flags with schema := some value }
  | .data => path { flags with data := some value }
  | .config => path { flags with config := some value }
  | .name => .ok { flags with name := some value }
  | .host => .ok { flags with host := some value }
  | .id => parsed readIdValue fun id => { flags with id := some id }
  | .port => parsed readPortValue fun port => { flags with port := some port }
  | .timeout => parsed readWordValue fun secs => { flags with timeout := some secs }
  | .backoff => parsed readWordValue fun ms => { flags with backoff := some ms }

end Flags

/-! ## Arguments -/

structure CliState where
  flags : Flags := {}
  /-- An option that has not been looked at, and its value if it has come. -/
  pending : Option (CliOption × Option String) := none

namespace CliState

def store (s : CliState) (o : CliOption) (value : String) : Except CliStop CliState :=
  if s.flags.has o then .error (.usage (.repeated o.usage))
  else do pure ⟨← s.flags.set o value, none⟩

/-- Looks at the option that has not been looked at. -/
def resolve (s : CliState) : Except CliStop CliState :=
  match s.pending with
  | none => .ok s
  | some (o, none) => .error (.usage (.missingValue o))
  | some (o, some value) => s.store o value

def takeOption (s : CliState) (o : CliOption) (value? : Option String) :
    Except CliStop CliState := do
  let s ← s.resolve
  match value? with
  | some value => s.store o value
  | none => pure { s with pending := some (o, none) }

def takeSwitch (s : CliState) (switch : CliSwitch) : Except CliStop CliState := do
  let s ← s.resolve
  let flags := s.flags
  let once (already : Bool) (flags : Flags) : Except CliStop CliState :=
    if already then .error (.usage (.repeated switch.usage)) else .ok { s with flags }
  match switch with
  | .strict => once flags.strict { flags with strict := true }
  | .once => once flags.once { flags with once := true }
  | .debug => once flags.debug { flags with debug := true }
  | .help => .error .help
  | .version => .error .version

def takeLong (s : CliState) (argument : List Char) : Except CliStop CliState :=
  let word := String.ofList (argument.takeWhile (· ≠ '='))
  let value? := match argument.dropWhile (· ≠ '=') with
    | [] => none
    | _ :: value => some (String.ofList value)
  match CliOption.all.find? (·.word = word), CliSwitch.all.find? (·.word = word) with
  | some o, _ => s.takeOption o value?
  | none, some switch =>
      match value? with
      | some value => .error (.usage (.unwantedValue switch value))
      | none => s.takeSwitch switch
  | none, none => .error (.usage (.unknownArgument ("--" ++ word)))

/-- Takes the letters behind a hyphen: switches, and then perhaps an option with the
rest as its value. -/
def takeLetters (s : CliState) : List Char → Except CliStop CliState
  | [] => .ok s
  | c :: rest =>
      match CliOption.all.find? (·.letter? = some c), CliSwitch.all.find? (·.letter? = some c) with
      | some o, _ =>
          let value? := match rest with
            | [] => none
            | '=' :: value => some (String.ofList value)
            | value => some (String.ofList value)
          s.takeOption o value?
      | none, some switch => do takeLetters (← s.takeSwitch switch) rest
      | none, none => .error (.usage (.unknownArgument (String.ofList ['-', c])))

def takeAll (s : CliState) : List String → Except CliStop CliState
  | [] => s.resolve
  | argument :: rest =>
      match argument.toList with
      | ['-', '-'] =>
          match rest with
          | [] => s.resolve
          | next :: _ => .error (.usage (.unknownArgument next))
      | '-' :: '-' :: long => do takeAll (← s.takeLong long) rest
      | '-' :: c :: letters => do takeAll (← s.takeLetters (c :: letters)) rest
      | _ =>
          match s.pending with
          | some (o, none) => takeAll { s with pending := some (o, some argument) } rest
          | _ => .error (.usage (.unknownArgument argument))

end CliState

def configVariable : String := "KNOT_THING_CONFIG"

/-- What a command line says.  Without the option, the variable names the
configuration file. -/
def Flags.ofArguments (lookup : Variables) (arguments : List String) : Except CliStop Flags := do
  let s ← CliState.takeAll {} arguments
  match s.flags.config, lookup configVariable with
  | none, some path => s.flags.set .config path
  | _, _ => pure s.flags

end ThingLink
