import CloudEmulator.Backend.Registry
import CloudEmulator.Config.EmulatorConfig
import CloudEmulator.Counters
import CloudEmulator.Extension.Pipeline

/-!
# The emulator

The URL index, the registry, the extension pipeline, and the switch that says
whether requests are intercepted. The management service is always registered
first.
-/

namespace CloudEmulator

/-- An emulator whose backends have states of type `σ`. -/
structure Emulator (σ : Type) where
  config : EmulatorConfig
  index : UrlIndex := {}
  registry : Registry σ := {}
  pipeline : Pipeline := {}
  /-- The names of the hooks that every reset runs, in order. -/
  resetHooks : List String := []
  intercepting : Bool := false
  counters : Counters := {}

/-- What happens inside of an emulator and can be seen from outside. -/
inductive Event where
  | hook (call : HookCall)
  | handler (request : ServiceRequest)
  | resetHook (name : String)

namespace Management

/-- The name of the management service. -/
def service : String := "emulator-api"

/-- The pattern of its URLs. -/
def urlBase : String := "^https?://motoapi\\.amazonaws\\.com"

/-- One of its routes. -/
def route (method path operation : String) (action : ManagementAction) :
    RouteSpec (Handler σ) where
  path := path
  method := some method
  operation := some operation
  handler := .management action

/-- Its routes. -/
def routes : List (RouteSpec (Handler σ)) := [
  route "POST" "/moto-api/reset/?$" "ResetBackends" .reset,
  route "GET" "/moto-api/health/?$" "Health" .health,
  route "GET" "/moto-api/backends/?$" "ListBackends" .listBackends,
  route "GET" "/moto-api/metrics/?$" "Metrics" .metrics]

/-- Its only kind of backend, whose state is never used. -/
def backend [Inhabited σ] : Except ConstructionFault (Backend σ) :=
  ((RouteTable.build [urlBase] routes).mapError fun _ => .invalidPattern).map fun table =>
    ⟨table, default, id⟩

/-- Its descriptor. -/
def descriptor [Inhabited σ] : ServiceDescriptor σ where
  name := service
  scope := .everywhere
  urlBases := [urlBase]
  operations := ["ResetBackends", "Health", "ListBackends", "Metrics"]
  factory _ _ _ := backend

/-- The answer that all is well. -/
def okStatus : Response :=
  .json 200 (.object [("status", .str "ok")])

/-- The list of instances as JSON. -/
def keysJson (keys : List BackendKey) : Json :=
  .array (keys.map fun k =>
    .object [("account", .str k.account), ("region", .str k.region), ("service", .str k.service)])

end Management

namespace Emulator

variable {σ : Type}

/-- Register a service: its URL bases join the index and its descriptor the
registry. With an invalid URL base nothing is registered. -/
def registerService (e : Emulator σ) (d : ServiceDescriptor σ) :
    Except UrlPatternError (Emulator σ) := do
  let patterns ← d.urlBases.mapM (UrlPattern.compile? d.name)
  return { e with registry := e.registry.register d, index := e.index.extend patterns }

/-- An emulator with only the management service. -/
def new [Inhabited σ] (config : EmulatorConfig) : Emulator σ :=
  match registerService { config } Management.descriptor with
  | .ok e => e
  | .error _ => { config }

/-- Load an extension file, with selectors checked against the operations of the
services registered so far. -/
def loadExtensions (e : Emulator σ) (clocks : Extension.Clocks) (contents : Option Bytes)
    (priority : Int) : Except Extension.LoadError (Emulator σ × List String) := do
  let (pipeline, ids) ← e.pipeline.load clocks priority e.registry.catalog contents
  return ({ e with pipeline }, ids)

/-- Set the clocks, for what all hooks will read. -/
def setClock (e : Emulator σ) (clock : Script.Clock) : Emulator σ :=
  { e with pipeline := e.pipeline.setClock clock }

/-- Run a hook at every reset from now on. -/
def registerResetHook (e : Emulator σ) (name : String) : Emulator σ :=
  { e with resetHooks := e.resetHooks ++ [name] }

/-- Reset all instances of registered services and run the reset hooks; how many
instances there are comes last. -/
def reset (e : Emulator σ) : Emulator σ × List Event × Nat :=
  let (registry, count) := e.registry.resetAll
  ({ e with registry }, e.resetHooks.map .resetHook, count)

/-- Do what the management service is asked for. -/
def manage (e : Emulator σ) : ManagementAction → Emulator σ × List Event × HandlerResult
  | .reset =>
    let (e, events, _) := e.reset
    (e, events, .answer Management.okStatus)
  | .health => (e, [], .answer Management.okStatus)
  | .listBackends => (e, [], .answer (.json 200 (Management.keysJson e.registry.materialized)))
  | .metrics =>
    (e, [], .answer ((Response.text 200 e.counters.page).withHeader
      "Content-Type" "text/plain; version=0.0.4"))

/-- Run a handler on an instance. -/
def handle (e : Emulator σ) (i : Instance σ) (h : Handler σ) (request : ServiceRequest) :
    Emulator σ × List Event × HandlerResult :=
  match h with
  | .own run =>
    let (registry, result) := e.registry.runOwn i run request
    ({ e with registry }, [], result)
  | .management action => e.manage action

end Emulator

end CloudEmulator
