import CloudEmulator.Client.Request
import CloudEmulator.Proxy.Server

/-!
# Requests to the proxy

Plain requests are answered by the emulator, and one host serves the certificate
of the authority. Tunnels are intercepted with a certificate for their host, or
relayed to it.
-/

namespace CloudEmulator

/-- What comes of connecting to a host. -/
inductive Dialed where
  | reached | failed | timedOut
  deriving DecidableEq, Repr

/-- What becomes of a request for a tunnel. -/
inductive Tunnel where
  | refused (r : WireResponse)
  /-- The requests inside are answered for an authority. -/
  | intercepted (config : TlsConfig) (authority : String)
  | relayed (host : String) (port : Nat)

namespace Tunnel

/-- The answer to a tunnel that is established. -/
def established : WireResponse :=
  { status := 200 }

/-- The reason in the answer to a tunnel that is established. -/
def establishedReason : String := "Connection Established"

/-- The answer to the request for a tunnel. -/
def answer : Tunnel → WireResponse
  | refused r => r
  | _ => established

end Tunnel

namespace ProxyServer

variable {σ : Type}

/-- The host that serves the certificate of the authority. -/
def authorityHost : String := "proxy2.test"

/-- The port of tunnels that name none. -/
def tunnelPort : Nat := 443

/-- The answer when there is nothing better to answer with. -/
def badGateway (message : String) : WireResponse :=
  .make 502 [("Content-Type", "text/plain")] (Utf8.encode message)

/-- The answer to requests for the certificate of the authority. -/
def authorityAnswer (s : ProxyServer σ) : WireResponse :=
  match s.store with
  | some store =>
    .make 200 [("Content-Type", "application/x-x509-ca-cert"), ("Connection", "close")]
      store.authorityText
  | none => .make 404 [("Connection", "close")] (Utf8.encode "No CA configured")

/-- Answer a request by the emulator. A failure is told in the answer, and later
requests are answered all the same. -/
def dispatch (s : ProxyServer σ) (scheme fallback : String) (r : HttpRequest) :
    ProxyServer σ × List Event × WireResponse :=
  let url := r.absoluteUrl scheme fallback
  let (emulator, events, outcome) := s.emulator.dispatch (r.incoming url)
  ({ s with emulator }, events,
    match outcome with
    | .ok response => response.encode
    | .error fault => badGateway fault.message)

/-- Answer a request that is not for a tunnel. -/
def answerPlain (s : ProxyServer σ) (r : HttpRequest) :
    ProxyServer σ × List Event × WireResponse :=
  if r.uri.host? == some authorityHost then (s, [], s.authorityAnswer)
  else s.dispatch "http" r.uri.authority r

/-- Answer a request inside of an intercepted tunnel. -/
def answerTunneled (s : ProxyServer σ) (authority : String) (r : HttpRequest) :
    ProxyServer σ × List Event × WireResponse :=
  s.dispatch "https" authority r

/-- Count a tunnel. -/
def countTunnel (s : ProxyServer σ) (mode : String) : ProxyServer σ :=
  { s with emulator := { s.emulator with counters := s.emulator.counters.addTunnel mode } }

/-- A host with its port, which is left out if it is the usual one. -/
def tunnelAuthority (host : String) (port : Nat) : String :=
  if port = tunnelPort then host else host ++ ":" ++ toString port

/-- Intercept a tunnel to a host. -/
def interceptTunnel (s : ProxyServer σ) (store : CertificateStore) (crypto : Cryptography)
    (clock : Int) (host : String) (port : Nat) : ProxyServer σ × Tunnel :=
  match store.tlsConfig crypto clock host with
  | (store, .ok config) =>
    (({ s with store := some store } : ProxyServer σ).countTunnel "intercept",
      .intercepted config (tunnelAuthority host port))
  | (store, .error _) =>
    ({ s with store := some store }, .refused (badGateway ("Certificate unavailable for " ++ host)))

/-- Relay a tunnel to a host that was dialed. -/
def relayTunnel (s : ProxyServer σ) (dialed : Dialed) (host : String) (port : Nat) :
    ProxyServer σ × Tunnel :=
  let address := host ++ ":" ++ toString port
  match dialed with
  | .reached => (s.countTunnel "relay", .relayed host port)
  | .failed => (s, .refused (badGateway ("Cannot reach " ++ address)))
  | .timedOut => (s, .refused (badGateway ("Timed out reaching " ++ address)))

/-- Answer a request for a tunnel. `dial` says what comes of connecting to a host;
it is asked only if the tunnel is not intercepted. -/
def openTunnel (s : ProxyServer σ) (crypto : Cryptography) (clock : Int)
    (dial : String → Nat → Dialed) (uri : Uri) : ProxyServer σ × Tunnel :=
  match uri.host? with
  | none => (s, .refused (.make 400 [] (Utf8.encode "CONNECT requires host:port")))
  | some host =>
    let port := uri.port?.getD tunnelPort
    match s.store with
    | some store => s.interceptTunnel store crypto clock host port
    | none => s.relayTunnel (dial host port) host port

end ProxyServer

end CloudEmulator
