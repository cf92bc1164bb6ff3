import CloudEmulator.Text.Quoted

/-!
# Faults of settings
-/

namespace CloudEmulator

/-- Why settings cannot be used. -/
inductive ConfigError where
  /-- The file is not there or cannot be read. -/
  | unreadable (path : String)
  /-- The file is not UTF-8. -/
  | notText (path : String)
  | notYaml
  | emptyHost
  | noRelayTimeout
  | noConnectTimeout
  /-- A variable holds no port. -/
  | invalidPort (name text : String)
  deriving DecidableEq, Repr

namespace ConfigError

/-- The error in words. -/
def message : ConfigError → String
  | unreadable path => "Failed to read proxy config " ++ path
  | notText path => "Failed to read proxy config " ++ path
  | notYaml => "invalid YAML"
  | emptyHost => "Proxy host must not be empty"
  | noRelayTimeout => "relay_idle_timeout_secs must be greater than zero"
  | noConnectTimeout => "connect_timeout_secs must be greater than zero"
  | invalidPort name text => name ++ " is not a valid port: " ++ Text.Quoted.encode text

end ConfigError

end CloudEmulator
