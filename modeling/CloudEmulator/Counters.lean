/-!
# Counters

What has happened so far, by service, status and extension. The counts are natural numbers;
where they are kept as doubles, they are the same up to `2 ^ 53`. How long requests took is
not kept, only how many were timed.
-/

namespace CloudEmulator

/-- How often each key was counted, in the order of first appearance. -/
structure Tally (α : Type) where
  entries : List (α × Nat) := []

namespace Tally

variable {α : Type} [BEq α]

/-- The entries with one more for a key. -/
def addEntry (key : α) : List (α × Nat) → List (α × Nat)
  | [] => [(key, 1)]
  | (k, n) :: rest => if k == key then (k, n + 1) :: rest else (k, n) :: addEntry key rest

/-- Count a key. -/
def add (t : Tally α) (key : α) : Tally α :=
  ⟨addEntry key t.entries⟩

/-- How often a key was counted. -/
def count (t : Tally α) (key : α) : Nat :=
  (t.entries.lookup key).getD 0

end Tally

/-- The counters of an emulator. -/
structure Counters where
  /-- Requests that were answered, by service and status. -/
  requests : Tally (String × Nat) := {}
  /-- Requests that an extension answered, by extension. -/
  shortCircuits : Tally String := {}
  /-- Handlers that failed, by service. -/
  handlerFailures : Tally String := {}
  /-- Tunnels, by how they are served. -/
  tunnels : Tally String := {}

namespace Counters

/-- Count a request that was answered. -/
def addRequest (c : Counters) (service : String) (status : Nat) : Counters :=
  { c with requests := c.requests.add (service, status) }

/-- Count an answer of an extension. -/
def addShortCircuit (c : Counters) (extension : String) : Counters :=
  { c with shortCircuits := c.shortCircuits.add extension }

/-- Count a handler that failed. -/
def addHandlerFailure (c : Counters) (service : String) : Counters :=
  { c with handlerFailures := c.handlerFailures.add service }

/-- Count a tunnel. -/
def addTunnel (c : Counters) (mode : String) : Counters :=
  { c with tunnels := c.tunnels.add mode }

/-- How many answered requests a service had, by service: each of them was timed. -/
def durations (c : Counters) : List (String × Nat) :=
  let services := c.requests.entries.map (·.1.1)
  services.eraseDups.map fun s =>
    (s, ((c.requests.entries.filter (·.1.1 == s)).map (·.2)).foldl (· + ·) 0)

/-- A counter with a name, labels and a count on a line of its own. -/
def line (name labels : String) (n : Nat) : String :=
  name ++ "\x7b" ++ labels ++ "\x7d " ++ toString n ++ "\n"

/-- The counters as a page. -/
def page (c : Counters) : String :=
  String.join
    (c.requests.entries.map (fun ((service, status), n) =>
        line "stratus_requests_total"
          ("service=\"" ++ service ++ "\",status=\"" ++ toString status ++ "\"") n) ++
      c.durations.map (fun (service, n) =>
        line "stratus_dispatch_duration_ms_count" ("service=\"" ++ service ++ "\"") n) ++
      c.shortCircuits.entries.map (fun (extension, n) =>
        line "stratus_extension_short_circuits_total" ("extension=\"" ++ extension ++ "\"") n) ++
      c.handlerFailures.entries.map (fun (service, n) =>
        line "stratus_handler_failures_total" ("service=\"" ++ service ++ "\"") n) ++
      c.tunnels.entries.map (fun (mode, n) =>
        line "stratus_proxy_tunnels_total" ("mode=\"" ++ mode ++ "\"") n))

end Counters

end CloudEmulator
