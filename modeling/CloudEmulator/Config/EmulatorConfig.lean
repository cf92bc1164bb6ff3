import CloudEmulator.Backend.RegionScope
import CloudEmulator.Config.Environment
import CloudEmulator.Text.Blank
import CloudEmulator.Yaml.Reader

/-!
# Settings of the emulator
-/

namespace CloudEmulator

/-- Credentials that are exported while the emulator is active. -/
structure Credentials where
  accessKeyId : String := "FOOBARKEY"
  secretAccessKey : String := "FOOBARSECRET"
  deriving DecidableEq, Repr

/-- The credentials of a YAML node, with defaults for what it leaves out. -/
def Credentials.ofNode? (node : Yaml.Node) : Option Credentials := do
  let entries ← node.entries?
  let defaults : Credentials := {}
  let accessKeyId ← Yaml.field entries "access_key_id" Yaml.Node.text? defaults.accessKeyId
  let secretAccessKey ← Yaml.field entries "secret_access_key" Yaml.Node.text?
    defaults.secretAccessKey
  return { accessKeyId, secretAccessKey }

/-- The settings of an emulator. -/
structure EmulatorConfig where
  account : String := defaultAccount
  credentials : Credentials := {}
  /-- Export the credentials during activation. -/
  patchEnv : Bool := true
  deriving DecidableEq, Repr

namespace EmulatorConfig

/-- The variable that overrides the account. -/
def accountVariable : String := "STRATUS_ACCOUNT_ID"

/-- The defaults, with the account from the environment unless it is blank. -/
def ofEnvironment (env : Environment) : EmulatorConfig :=
  match env.get? accountVariable with
  | some account =>
    if Text.allBlank account then {} else { account := Text.trim account }
  | none => {}

/-- The settings of a YAML text, with defaults for what it leaves out. -/
def ofYaml? (text : String) : Option EmulatorConfig := do
  let entries ← (← Yaml.read? text).entries?
  let defaults : EmulatorConfig := {}
  let account ← Yaml.field entries "account_id" Yaml.Node.text? defaults.account
  let credentials ← Yaml.field entries "credentials" Credentials.ofNode? defaults.credentials
  let patchEnv ← Yaml.field entries "patch_env" Yaml.Node.bool? defaults.patchEnv
  return { account, credentials, patchEnv }

end EmulatorConfig

end CloudEmulator
