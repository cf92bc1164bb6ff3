import CloudEmulator.Config.ConfigError
import CloudEmulator.Config.Environment
import CloudEmulator.Net.IpAddress
import CloudEmulator.Text.Blank
import CloudEmulator.Text.Number
import CloudEmulator.Text.Utf8
import CloudEmulator.Yaml.Reader

/-!
# Settings of the proxy
-/

namespace CloudEmulator

/-- Where the proxy listens, where its certificates are, and how long it waits. -/
structure ProxyConfig where
  host : String := "127.0.0.1"
  port : Nat := 5005
  caDir : String := "ca"
  relayIdleSeconds : Nat := 5
  connectSeconds : Nat := 10
  deriving DecidableEq, Repr

namespace ProxyConfig

/-- The variable that overrides the port. -/
def portVariable : String := "MOTO_PROXY_PORT"

/-- The variable that overrides the directory of the certificates. -/
def caDirVariable : String := "STRATUS_CA_DIR"

/-- The largest port. -/
def maxPort : Nat := 65535

/-- The largest number of seconds. -/
def maxSeconds : Nat := Nat.pow 2 64 - 1

/-- The defaults with the port that the environment gives, if it gives one. -/
def withPortOf (config : ProxyConfig) (env : Environment) : Except ConfigError ProxyConfig :=
  match env.get? portVariable with
  | none => .ok config
  | some text =>
    match Text.number? maxPort (Text.trim text) with
    | some port => .ok { config with port }
    | none => .error (.invalidPort portVariable text)

/-- The settings that the environment gives. An empty directory counts as none. -/
def ofEnvironment (env : Environment) : Except ConfigError ProxyConfig := do
  let config ← ({} : ProxyConfig).withPortOf env
  match env.get? caDirVariable with
  | none => return config
  | some dir => return if dir.isEmpty then config else { config with caDir := dir }

/-- A natural number up to `limit`. -/
def limited (limit : Nat) (node : Yaml.Node) : Option Nat :=
  node.nat?.filter (· ≤ limit)

/-- The settings of a YAML node, with defaults for what it leaves out. -/
def ofNode? (node : Yaml.Node) : Option ProxyConfig := do
  let entries ← node.entries?
  let defaults : ProxyConfig := {}
  let host ← Yaml.field entries "host" Yaml.Node.text? defaults.host
  let port ← Yaml.field entries "port" (limited maxPort) defaults.port
  let caDir ← Yaml.field entries "ca_dir" Yaml.Node.text? defaults.caDir
  let relayIdleSeconds ← Yaml.field entries "relay_idle_timeout_secs" (limited maxSeconds)
    defaults.relayIdleSeconds
  let connectSeconds ← Yaml.field entries "connect_timeout_secs" (limited maxSeconds)
    defaults.connectSeconds
  return { host, port, caDir, relayIdleSeconds, connectSeconds }

/-- The settings are of use: there is a host, and no time to wait is zero. -/
def validate (config : ProxyConfig) : Except ConfigError Unit :=
  if Text.allBlank config.host then .error .emptyHost
  else if config.relayIdleSeconds = 0 then .error .noRelayTimeout
  else if config.connectSeconds = 0 then .error .noConnectTimeout
  else .ok ()

/-- The settings of a file, which must be valid. -/
def ofFile (path : String) (contents : Option Bytes) : Except ConfigError ProxyConfig :=
  match contents with
  | none => .error (.unreadable path)
  | some bytes =>
    match Utf8.decode? bytes with
    | none => .error (.notText path)
    | some text =>
      match (Yaml.read? text).bind ofNode? with
      | none => .error .notYaml
      | some config => do
        config.validate
        return config

/-- The address to listen on, if the host is an IP address. -/
def address? (config : ProxyConfig) : Option IpAddress :=
  IpAddress.parse? config.host

/-- How many milliseconds a tunnel may be idle. -/
def relayIdleMillis (config : ProxyConfig) : Nat :=
  config.relayIdleSeconds * 1000

/-- How many milliseconds connecting may take. -/
def connectMillis (config : ProxyConfig) : Nat :=
  config.connectSeconds * 1000

end ProxyConfig

end CloudEmulator
