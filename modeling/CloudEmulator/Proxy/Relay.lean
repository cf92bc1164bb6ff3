import CloudEmulator.Text.Utf8

/-!
# Relayed tunnels

Octets pass both ways unchanged until either side ends, a read fails, or nothing
has come for too long.
-/

namespace CloudEmulator

/-- The ends of a tunnel. -/
inductive TunnelSide where
  | client | origin
  deriving DecidableEq, Repr

/-- What can happen next in a tunnel. A read of nothing is the end of a side. -/
inductive TunnelEvent where
  | read (side : TunnelSide) (octets : Bytes)
  | readFailed (side : TunnelSide)
  | idle

/-- How many octets went each way. -/
structure RelayStats where
  clientToOrigin : Nat := 0
  originToClient : Nat := 0
  deriving DecidableEq, Repr

/-- How a tunnel ends. -/
inductive RelayEnd where
  | closed (stats : RelayStats)
  | failed
  deriving DecidableEq, Repr

namespace Relay

/-- The most octets of one read. -/
def bufferSize : Nat := 16 * 1024

/-- A buffer before the first read. -/
def blank : Bytes := List.replicate bufferSize 0

/-- A buffer after a read: at its front what was read, and behind that what earlier reads
have left there. -/
def fill (buffer octets : Bytes) : Bytes :=
  octets ++ buffer.drop octets.length

end Relay

/-- A tunnel: the buffer of each direction, which every read uses anew, what each side has
received, and whether its writing end was shut down. -/
structure Relay where
  upstream : Bytes := Relay.blank
  downstream : Bytes := Relay.blank
  toOrigin : Bytes := []
  toClient : Bytes := []
  stats : RelayStats := {}
  originShut : Bool := false
  clientShut : Bool := false

namespace Relay

/-- Read what one side gave into the buffer of its direction, and write as much of the buffer
to the other side. -/
def forward (r : Relay) (side : TunnelSide) (octets : Bytes) : Relay :=
  let n := octets.length
  match side with
  | .client =>
    let upstream := fill r.upstream octets
    { r with
      upstream
      toOrigin := r.toOrigin ++ upstream.take n
      stats := { r.stats with clientToOrigin := r.stats.clientToOrigin + n } }
  | .origin =>
    let downstream := fill r.downstream octets
    { r with
      downstream
      toClient := r.toClient ++ downstream.take n
      stats := { r.stats with originToClient := r.stats.originToClient + n } }

/-- Shut the writing ends of both sides. -/
def close (r : Relay) : Relay × RelayEnd :=
  ({ r with originShut := true, clientShut := true }, .closed r.stats)

/-- What one event does: the tunnel, and how it ends if it does. -/
def step (r : Relay) : TunnelEvent → Relay × Option RelayEnd
  | .read _ [] => (r.close.1, some r.close.2)
  | .read side octets => (r.forward side octets, none)
  | .readFailed _ => (r, some .failed)
  | .idle => (r.close.1, some r.close.2)

/-- Let events happen until the tunnel ends. -/
def run (r : Relay) : List TunnelEvent → Relay × Option RelayEnd
  | [] => (r, none)
  | event :: rest =>
    match r.step event with
    | (r, some e) => (r, some e)
    | (r, none) => run r rest

/-- The reads of what one side writes at once. -/
def reads (fuel : Nat) (side : TunnelSide) (octets : Bytes) : List TunnelEvent :=
  match fuel with
  | 0 => []
  | fuel + 1 =>
    if octets.isEmpty then []
    else .read side (octets.take bufferSize) :: reads fuel side (octets.drop bufferSize)

end Relay

end CloudEmulator
