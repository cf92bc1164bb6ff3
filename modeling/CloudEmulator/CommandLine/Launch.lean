import CloudEmulator.CommandLine.Options
import CloudEmulator.Proxy.Server

/-!
# Launching the proxy

From the command line to a proxy that is ready to listen.
-/

namespace CloudEmulator.CommandLine

/-- The host that a program runs on: its files, its network and its clocks. -/
structure Surroundings (m : Type → Type) where
  file : String → m (Option Bytes)
  /-- What the clocks show while a file is loaded. -/
  clocks : m Extension.Clocks
  material : String → m Material
  /-- The address of a host that is not an IP address itself. -/
  resolve : String → m (Option IpAddress)
  /-- The address can be listened on. -/
  bind : IpAddress → Nat → m Bool

/-- What a command line comes to. -/
inductive Launch (σ : Type) where
  | stopped (s : Stop)
  | failed (e : ProxyError)
  | listening (s : ProxyServer σ) (address : IpAddress)

namespace Launch

variable {σ : Type}

/-- The exit code of a program that ends like this. Listening ends by request. -/
def exitCode : Launch σ → Nat
  | stopped .misused => 2
  | stopped _ => 0
  | failed _ => 1
  | listening .. => 0

/-- The complaint of a program that ends like this. -/
def complaint? : Launch σ → Option String
  | failed e => some ("Error: " ++ e.message)
  | _ => none

end Launch

variable {σ : Type} {m : Type → Type} [Monad m]

/-- Load extension files in order; earlier ones run first. -/
def loadExtensions (around : Surroundings m) (emulator : Emulator σ) (priority : Nat) :
    List String → m (Except ProxyError (Emulator σ))
  | [] => pure (.ok emulator)
  | path :: rest => do
    match emulator.loadExtensions (← around.clocks) (← around.file path) priority with
    | .error e => pure (.error (.extensions path e))
    | .ok (emulator, _) => loadExtensions around emulator (priority + 1) rest

/-- The address to listen on. -/
def findAddress (around : Surroundings m) (config : ProxyConfig) :
    m (Except ProxyError IpAddress) := do
  let found ← match config.address? with
    | some address => pure (some address)
    | none => around.resolve config.host
  match found with
  | none => pure (.error (.unresolved config.host config.port))
  | some address =>
    if ← around.bind address config.port then pure (.ok address)
    else pure (.error (.unbound (address.withPort config.port)))

/-- Make a proxy with the given settings. -/
def launchWith (around : Surroundings m) (crypto : Cryptography) (config : ProxyConfig)
    (emulator : Emulator σ) (extensions : List String) : m (Launch σ) := do
  match ← loadExtensions around emulator 0 extensions with
  | .error e => pure (.failed e)
  | .ok emulator =>
    match ProxyServer.start config crypto (← around.material config.caDir) emulator with
    | .error e => pure (.failed e)
    | .ok server =>
      match ← findAddress around config with
      | .error e => pure (.failed e)
      | .ok address => pure (.listening server address)

/-- Follow a command line. -/
def launch (around : Surroundings m) (crypto : Cryptography) (emulator : Emulator σ)
    (arguments : List String) (env : Environment) : m (Launch σ) := do
  match parse arguments env with
  | .error s => pure (.stopped s)
  | .ok o =>
    let contents ← match o.config with
      | some path => around.file path
      | none => pure none
    match o.settings contents with
    | .error e => pure (.failed (.config e))
    | .ok config => launchWith around crypto config emulator o.extensions

end CloudEmulator.CommandLine
