import CloudEmulator.CommandLine.Launch
import CloudEmulator.Proxy.Listener

/-!
# The proxy program

Launches the proxy of a command line and serves it until the program is asked to
stop. No cryptography is built in: material of a certificate authority is never
genuine here, so tunnels are relayed or the program does not start.
-/

namespace CloudEmulator.Program

open CommandLine Std.Async Std.Async.TCP

/-- What the program prints when it is asked for help. -/
def helpText : String :=
  "HTTP(S) proxy answering emulated cloud APIs\n\nUsage: stratus-proxy [OPTIONS]\n\nOptions:\n" ++
  "  -H, --host <HOST>\n  -p, --port <PORT>\n  -c, --config <CONFIG>\n      --ca-dir <CA_DIR>\n" ++
  "      --relay-timeout-secs <RELAY_TIMEOUT_SECS>\n      --extension <EXTENSIONS>\n" ++
  "      --log-format <LOG_FORMAT>  [possible values: text, json]\n" ++
  "  -h, --help\n  -V, --version"

/-- What the program prints when its arguments make no sense. -/
def misuseText : String :=
  "error: unexpected arguments\n\nFor more information, try '--help'."

/-- What the program prints when it is asked for its version. -/
def versionText : String := "stratus-proxy 0.1.0"

/-- Cryptography that nothing is genuine for. -/
def noCryptography : Cryptography where
  isKey _ := false
  isCertificate _ := false
  sign _ := none

/-- The octets of a file. -/
def readFile? (path : String) : IO (Option Bytes) := do
  try return some (← IO.FS.readBinFile path).data.toList
  catch _ => return none

/-- The entries of a directory that matter to the proxy. -/
def readMaterial (directory : String) : IO Material := do
  let mut entries : List (String × MaterialEntry) := []
  for name in [Material.authorityFile, Material.authorityKeyFile, Material.leafKeyFile] do
    if let some contents ← readFile? (Path.join directory name) then
      entries := entries ++ [(name, .file contents)]
  if ← ((← IO.currentDir) / Path.join directory Material.certificateDirectory).isDir then
    entries := entries ++ [(Material.certificateDirectory, .directory {})]
  return { entries }

/-- The variables that matter to the program. -/
def readEnvironment : IO Environment := do
  let mut env : Environment := {}
  let names := [ProxyConfig.portVariable, ProxyConfig.caDirVariable, EmulatorConfig.accountVariable]
  for name in names do
    if let some value ← IO.getEnv name then env := env.set name value
  return env

/-- Serve until the program is asked to stop. -/
def serveUntilAsked (proxy : ProxyServer Unit) (server : Socket.Server) : IO Unit := do
  let shared ← IO.mkRef proxy
  let asked ← Signal.Waiter.mk .sigterm false
  let interrupted ← Signal.Waiter.mk .sigint false
  (Async.race (Listener.accept shared noCryptography server) (do
    Selectable.one #[
      .case asked.selector fun _ => return,
      .case interrupted.selector fun _ => return])).block

/-- Launch the proxy and serve it; what it comes to is the exit code. -/
def run (arguments : List String) : IO UInt32 := do
  let env ← readEnvironment
  let socket ← IO.mkRef (none : Option Socket.Server)
  let around : Surroundings IO := {
    file := readFile?
    clocks := return .still (← Listener.moment)
    material := readMaterial
    resolve := fun host => (Listener.resolve? host).block
    bind := fun address port => do
      let server ← Listener.listen? address port
      socket.set server
      return server.isSome }
  let emulator : Emulator Unit := Emulator.new (EmulatorConfig.ofEnvironment env)
  let launched ← launch around noCryptography emulator arguments env
  match launched with
  | .stopped .help => IO.println helpText
  | .stopped .version => IO.println versionText
  | .stopped .misused => IO.eprintln misuseText
  | .failed _ => IO.eprintln (launched.complaint?.getD "")
  | .listening proxy address =>
    if let some server ← socket.get then
      let port ← Listener.portOf server
      IO.println ("Proxy listening on http://" ++ address.withPort port)
      (← IO.getStdout).flush
      serveUntilAsked proxy server
      IO.println "Shutting down"
  return launched.exitCode.toUInt32

end CloudEmulator.Program

/-- The program. -/
def main (arguments : List String) : IO UInt32 :=
  CloudEmulator.Program.run arguments
