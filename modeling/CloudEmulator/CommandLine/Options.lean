import CloudEmulator.Config.ProxyConfig
import CloudEmulator.Text.Ascii

/-!
# Command line options

Each option has a value, in the same argument or in the next one. All but the
extensions may be given once. Two options may come from the environment instead.
-/

namespace CloudEmulator.CommandLine

/-- The options that have values. -/
inductive Flag where
  | host | port | config | caDir | relayTimeout | extension | logFormat
  deriving DecidableEq, Repr

/-- How the log is written. -/
inductive LogFormat where
  | text | json
  deriving DecidableEq, Repr

/-- What the arguments ask for. -/
structure Options where
  host : Option String := none
  port : Option Nat := none
  config : Option String := none
  caDir : Option String := none
  relaySeconds : Option Nat := none
  /-- The extension files, in the order they are loaded. -/
  extensions : List String := []
  logFormat : Option LogFormat := none
  deriving DecidableEq, Repr

/-- Why reading the arguments ends early. -/
inductive Stop where
  | help | version | misused
  deriving DecidableEq, Repr

namespace Flag

/-- The option with a long name. -/
def ofLong? : String → Option Flag
  | "host" => some host
  | "port" => some port
  | "config" => some config
  | "ca-dir" => some caDir
  | "relay-timeout-secs" => some relayTimeout
  | "extension" => some extension
  | "log-format" => some logFormat
  | _ => none

/-- The option with a letter. -/
def ofShort? : Char → Option Flag
  | 'H' => some host
  | 'p' => some port
  | 'c' => some config
  | _ => none

end Flag

namespace Options

/-- A port, which may be written with a sign. -/
def port? (value : String) : Option Nat :=
  match value.toList with
  | '-' :: ds => if !ds.isEmpty && ds.all (· == '0') then some 0 else none
  | _ => Text.number? ProxyConfig.maxPort value

/-- A path, which is not empty. -/
def path? (value : String) : Option String :=
  if value.isEmpty then none else some value

/-- A format of the log. -/
def logFormat? : String → Option LogFormat
  | "text" => some .text
  | "json" => some .json
  | _ => none

/-- The option was given. An option that may be repeated never counts as given. -/
def has (o : Options) : Flag → Bool
  | .host => o.host.isSome
  | .port => o.port.isSome
  | .config => o.config.isSome
  | .caDir => o.caDir.isSome
  | .relayTimeout => o.relaySeconds.isSome
  | .extension => false
  | .logFormat => o.logFormat.isSome

/-- Give an option a value, if it is one of its values. -/
def put? (o : Options) (flag : Flag) (value : String) : Option Options :=
  match flag with
  | .host => some { o with host := some value }
  | .port => (port? value).map fun n => { o with port := some n }
  | .config => (path? value).map fun p => { o with config := some p }
  | .caDir => (path? value).map fun p => { o with caDir := some p }
  | .relayTimeout =>
    (Text.number? ProxyConfig.maxSeconds value).map fun n => { o with relaySeconds := some n }
  | .extension => (path? value).map fun p => { o with extensions := o.extensions ++ [p] }
  | .logFormat => (logFormat? value).map fun f => { o with logFormat := some f }

/-- Give an option its only value. -/
def set (o : Options) (flag : Flag) (value : String) : Except Stop Options :=
  if o.has flag then .error .misused
  else
    match o.put? flag value with
    | some o => .ok o
    | none => .error .misused

end Options

/-- What an argument is. -/
inductive Argument where
  | flag (f : Flag) (value : Option String)
  /-- It ends the reading, or stands where nothing may stand. -/
  | stop (s : Stop)
  /-- Only arguments without options may follow. -/
  | delimiter
  deriving DecidableEq, Repr

namespace Argument

/-- Tell an argument with a long name. -/
def ofLong (name : String) (value : Option String) : Argument :=
  match Flag.ofLong? name, name, value with
  | some f, _, value => flag f value
  | none, "help", none => stop .help
  | none, "version", none => stop .version
  | none, _, _ => stop .misused

/-- Tell an argument of letters behind a hyphen. An equals sign may stand in front
of the value. -/
def ofShort (letter : Char) (rest : List Char) : Argument :=
  match Flag.ofShort? letter, letter with
  | some f, _ =>
    match rest with
    | [] => flag f none
    | '=' :: value => flag f (some (String.ofList value))
    | value => flag f (some (String.ofList value))
  | none, 'h' => stop .help
  | none, 'V' => stop .version
  | none, _ => stop .misused

/-- Tell what an argument is. -/
def ofText (argument : String) : Argument :=
  match argument.toList with
  | ['-', '-'] => delimiter
  | '-' :: '-' :: cs =>
    let (name, value) := Text.splitOnce '=' cs
    ofLong (String.ofList name) (value.map String.ofList)
  | '-' :: letter :: rest => ofShort letter rest
  | _ => stop .misused

/-- The argument can be the value of the option in front of it. -/
def isValue (argument : String) : Bool :=
  match argument.toList with
  | '-' :: _ :: _ => false
  | _ => true

end Argument

/-- Read arguments. `pending` is an option that still lacks its value. -/
def read (o : Options) (pending : Option Flag) : List String → Except Stop Options
  | [] => if pending.isSome then .error .misused else .ok o
  | argument :: rest =>
    match pending with
    | some flag =>
      if Argument.isValue argument then do
        let o ← o.set flag argument
        read o none rest
      else .error .misused
    | none =>
      match Argument.ofText argument with
      | .flag f none => read o (some f) rest
      | .flag f (some value) => do
        let o ← o.set f value
        read o none rest
      | .stop s => .error s
      | .delimiter => if rest.isEmpty then .ok o else .error .misused

/-- Take an option from the environment, unless it was given. -/
def fillIn (env : Environment) (flag : Flag) (name : String) (o : Options) : Except Stop Options :=
  match env.get? name with
  | some value => if o.has flag then .ok o else o.set flag value
  | none => .ok o

/-- The options of a command line. -/
def parse (arguments : List String) (env : Environment) : Except Stop Options := do
  let o ← read {} none arguments
  let o ← fillIn env .port ProxyConfig.portVariable o
  fillIn env .caDir ProxyConfig.caDirVariable o

namespace Options

/-- The settings of a file with those of the options in place of them. -/
def override (o : Options) (config : ProxyConfig) : ProxyConfig where
  host := o.host.getD config.host
  port := o.port.getD config.port
  caDir := o.caDir.getD config.caDir
  relayIdleSeconds := o.relaySeconds.getD config.relayIdleSeconds
  connectSeconds := config.connectSeconds

/-- The settings of the options and the file they name, whose contents are given.
The file must be valid by itself, and so must the result. -/
def settings (o : Options) (contents : Option Bytes) : Except ConfigError ProxyConfig := do
  let base ← match o.config with
    | some path => ProxyConfig.ofFile path contents
    | none => pure {}
  let config := o.override base
  config.validate
  return config

end Options

end CloudEmulator.CommandLine
