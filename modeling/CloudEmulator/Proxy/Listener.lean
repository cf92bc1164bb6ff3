import CloudEmulator.Http.Message
import CloudEmulator.Proxy.Handler
import CloudEmulator.Proxy.Relay
import Std.Async
import Std.Time

/-!
# Connections

What moves octets between sockets and the proxy. All decisions are made elsewhere.
-/

namespace CloudEmulator.Listener

open Std.Async Std.Async.TCP

/-- The address of a socket. -/
def socketAddress? (address : IpAddress) (port : Nat) : Option Std.Net.SocketAddress :=
  match address with
  | .v4 _ => (Std.Net.IPv4Addr.ofString address.text).map fun a => .v4 ⟨a, port.toUInt16⟩
  | .v6 _ => (Std.Net.IPv6Addr.ofString address.text).map fun a => .v6 ⟨a, port.toUInt16⟩

/-- Listen on an address, if that can be done. -/
def listen? (address : IpAddress) (port : Nat) : IO (Option Socket.Server) := do
  try
    let some target := socketAddress? address port | return none
    let server ← Socket.Server.mk
    server.bind target
    server.listen 1024
    return some server
  catch _ => return none

/-- The port that a socket listens on. -/
def portOf (server : Socket.Server) : IO Nat := do
  match ← server.getSockName with
  | .v4 a => return a.port.toNat
  | .v6 a => return a.port.toNat

/-- The first address of a host. -/
def resolve? (host : String) : Async (Option IpAddress) := do
  if let some address := IpAddress.parse? host then return some address
  try
    let found ← DNS.getAddrInfo host ""
    return found[0]?.bind fun
      | .v4 a => IpAddress.parse? (toString a)
      | .v6 a => IpAddress.parse? (toString a)
  catch _ => return none

/-- Connect to a host within some milliseconds. -/
def dial (host : String) (port millis : Nat) : Async (Dialed × Option Socket.Client) := do
  let some target := (← resolve? host).bind fun a => socketAddress? a port
    | return (.failed, none)
  let connect : Async (Dialed × Option Socket.Client) := do
    try
      let socket ← Socket.Client.mk
      socket.connect target
      return (.reached, some socket)
    catch _ => return (.failed, none)
  let giveUp : Async (Dialed × Option Socket.Client) := do
    sleep (.ofNat millis)
    return (.timedOut, none)
  have : Inhabited (Dialed × Option Socket.Client) := ⟨(.failed, none)⟩
  Async.race connect giveUp

/-- Send octets. -/
def send (socket : Socket.Client) (octets : Bytes) : Async Unit :=
  if octets.isEmpty then return else socket.send ⟨octets.toArray⟩

/-- What a read gave: nothing at the end. -/
def received (octets : Option ByteArray) : Bytes :=
  (octets.map (·.data.toList)).getD []

/-- Relay a tunnel until it ends. -/
partial def relay (client origin : Socket.Client) (millis : Nat) (r : Relay) : Async Unit := do
  let size := Relay.bufferSize.toUInt64
  let readFrom (socket : Socket.Client) (side : TunnelSide) : Selectable TunnelEvent :=
    .case (socket.recvSelector size) fun octets => return .read side (received octets)
  let event ← Selectable.one #[readFrom client .client, readFrom origin .origin,
    .case (← Selector.sleep (.ofNat millis)) fun _ => return .idle]
  let (r, ending) := r.step event
  send origin r.toOrigin
  send client r.toClient
  if ending.isSome then
    origin.shutdown
    client.shutdown
  else relay client origin millis { r with toOrigin := [], toClient := [] }

/-- The time in milliseconds since the epoch. -/
def clock : IO Int := do
  return (← Std.Time.Timestamp.now).toMillisecondsSinceUnixEpoch.val

/-- What the clocks show. -/
def moment : IO Script.Moment := do
  return ⟨(← clock) / 1000, ← IO.monoNanosNow⟩

variable {σ : Type}

/-- Open a tunnel and serve it. -/
def tunnel (shared : IO.Ref (ProxyServer σ)) (crypto : Cryptography) (client : Socket.Client)
    (uri : Uri) : Async Unit := do
  let proxy ← shared.get
  let (dialed, origin) ← match uri.host? with
    | some host =>
      if proxy.isIntercepting then pure (Dialed.failed, none)
      else dial host (uri.port?.getD ProxyServer.tunnelPort) proxy.config.connectMillis
    | none => pure (.failed, none)
  let now ← clock
  let opened ← shared.modifyGet fun s =>
    let (s, opened) := s.openTunnel crypto now (fun _ _ => dialed) uri
    (opened, s)
  match opened, origin with
  | .relayed .., some origin =>
    send client (Message.encode true Tunnel.establishedReason opened.answer)
    relay client origin proxy.config.relayIdleMillis {}
  | _, _ =>
    send client (Message.encode false (Message.reason opened.answer.status) opened.answer)
    client.shutdown

/-- The answer to what is no request. -/
def malformed : WireResponse :=
  .make 400 [("Connection", "close")] []

/-- Answer the requests of a connection in turn. -/
partial def serve (shared : IO.Ref (ProxyServer σ)) (crypto : Cryptography) (client : Socket.Client)
    (pending : Bytes) : Async Unit := do
  match Message.readRequest pending with
  | .incomplete =>
    match received (← client.recv? 65536) with
    | [] => client.shutdown
    | octets => serve shared crypto client (pending ++ octets)
  | .malformed =>
    send client (Message.encode false (Message.reason 400) malformed)
    client.shutdown
  | .done (head, body) rest =>
    match HttpRequest.make? head.method head.target head.headers body with
    | none =>
      send client (Message.encode false (Message.reason 400) malformed)
      client.shutdown
    | some r =>
      if r.method == "CONNECT" then tunnel shared crypto client r.uri
      else
        let now ← moment
        let answer ← shared.modifyGet fun s =>
          let (s, _, answer) := (s.setClock (.still now)).answerPlain r
          (answer, s)
        send client (Message.encode (r.method == "HEAD") (Message.reason answer.status) answer)
        let ends := answer.fields.get? "connection" == some (Utf8.encode "close")
        if Message.Head.keepsAlive head && !ends then serve shared crypto client rest
        else client.shutdown

/-- Serve a connection; its failure ends it and nothing else. -/
def serveSafely (shared : IO.Ref (ProxyServer σ)) (crypto : Cryptography)
    (client : Socket.Client) : Async Unit := do
  try serve shared crypto client []
  catch _ => return

/-- Serve every connection that comes. -/
partial def accept (shared : IO.Ref (ProxyServer σ)) (crypto : Cryptography)
    (server : Socket.Server) : Async Unit := do
  let client ← server.accept
  background (serveSafely shared crypto client)
  accept shared crypto server

end CloudEmulator.Listener
