import CloudEmulator.Request
import CloudEmulator.Response
import CloudEmulator.Routing.RouteTable

/-!
# Handlers and backends

A backend has a state of its own and routes to handlers. A handler sees the state
and the request; the handlers of the management service act on the emulator. Handlers
are functions: what closures could do beside their answer, such as registering
extensions or services while they run, is no part of this.
-/

namespace CloudEmulator

/-- How handling a request ends. -/
inductive HandlerResult where
  | answer (r : Response)
  /-- A failure of the emulated service, which is its answer. -/
  | domain (e : DomainError)
  /-- A failure of the handler itself. -/
  | fatal (message : String)
  /-- The handler was torn down while it ran. -/
  | panic
  deriving Inhabited

/-- What the management service does. -/
inductive ManagementAction where
  | reset | health | listBackends | metrics
  deriving DecidableEq, Repr

/-- A handler over states of type `σ`. It changes nothing but the state of its instance,
or it is one of the management service. -/
inductive Handler (σ : Type) where
  | own (run : σ → ServiceRequest → σ × HandlerResult)
  | management (action : ManagementAction)

/-- An instance of a service as it is constructed. -/
structure Backend (σ : Type) where
  routes : RouteTable (Handler σ)
  state : σ
  reset : σ → σ

/-- Why a backend could not be constructed. -/
inductive ConstructionFault where
  | failed (message : String)
  | invalidPattern
  deriving DecidableEq, Repr

namespace ConstructionFault

/-- The fault in words. -/
def message : ConstructionFault → String
  | failed message => message
  | invalidPattern => "a route has an invalid pattern"

end ConstructionFault

end CloudEmulator
