import CloudEmulator.Config.ProxyConfig
import CloudEmulator.Emulator.Dispatch
import CloudEmulator.Tls.CertificateStore

/-!
# The proxy

An emulator behind an address, with a store of certificates if their material is
complete. Only with it are tunnels intercepted.
-/

namespace CloudEmulator

/-- Why a proxy does not start. -/
inductive ProxyError where
  | config (e : ConfigError)
  | material (directory : String) (e : CertificateError)
  | unresolved (host : String) (port : Nat)
  | unbound (address : String)
  | extensions (path : String) (e : Extension.LoadError)

namespace ProxyError

/-- The error in words. -/
def message : ProxyError → String
  | config e => e.message
  | material directory _ => "Failed to load CA material from " ++ directory
  | unresolved host port => "Failed to resolve " ++ host ++ ":" ++ toString port
  | unbound address => "Failed to bind proxy to " ++ address
  | extensions path _ => "Failed to load extensions from " ++ path

end ProxyError

/-- A proxy whose backends have states of type `σ`. -/
structure ProxyServer (σ : Type) where
  config : ProxyConfig
  emulator : Emulator σ
  store : Option CertificateStore := none

namespace ProxyServer

variable {σ : Type}

/-- A proxy with valid settings. Material that is complete must be genuine. -/
def start (config : ProxyConfig) (crypto : Cryptography) (material : Material)
    (emulator : Emulator σ) : Except ProxyError (ProxyServer σ) := do
  config.validate.mapError .config
  if material.isComplete then
    let store ← (CertificateStore.load crypto material).mapError (.material config.caDir)
    return { config, emulator, store := some store }
  else
    return { config, emulator }

/-- Set the clocks, for what all hooks will read. -/
def setClock (s : ProxyServer σ) (clock : Script.Clock) : ProxyServer σ :=
  { s with emulator := s.emulator.setClock clock }

/-- Tunnels are intercepted. -/
def isIntercepting (s : ProxyServer σ) : Bool :=
  s.store.isSome

end ProxyServer

end CloudEmulator
