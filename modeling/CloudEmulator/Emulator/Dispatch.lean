import CloudEmulator.Emulator.Basic

/-!
# Dispatching requests

Each request is classified by its URL, given to the backend of its service in the
preferred region, and answered by an extension, by the handler of the first route
that matches, or as not implemented.
-/

namespace CloudEmulator

/-- Why a request has no response. -/
inductive DispatchError where
  | invalidHeader (name : String)
  | backend (e : RegistryError)
  | handler (service : String) (operation : Option String) (message : String)
  /-- The handler was torn down while it ran. -/
  | panicked
  deriving DecidableEq, Repr

namespace DispatchError

/-- The error in words. -/
def message : DispatchError → String
  | invalidHeader name => "Header '" ++ name ++ "' is not valid UTF-8"
  | backend e => e.message
  | handler service operation message =>
    "Handler for " ++ service ++ ":" ++ operation.getD "?" ++ " failed: " ++ message
  | panicked => "Handler panicked"

end DispatchError

/-- The operation that the target header names: what follows its last dot. -/
def targetOperation? (headers : Headers) : Option String :=
  match headers.get? "x-amz-target" with
  | none => none
  | some target =>
    let name := (target.toList.reverse.takeWhile (· != '.')).reverse
    if name.isEmpty then none else some (String.ofList name)

/-- The action that form parameters name. -/
def actionOf? (form : String) : Option String :=
  (Form.decode form).lookup "Action"

/-- The body is form parameters. -/
def hasForm (headers : Headers) : Bool :=
  (headers.get? "content-type").any fun value =>
    "application/x-www-form-urlencoded".toList.isPrefixOf value.toList

/-- The operation that a request itself names: its target header, or else the
action in its query or in a form that is its body. -/
def deriveOperation? (headers : Headers) (url : String) (body : Bytes) : Option String :=
  match targetOperation? headers with
  | some operation => some operation
  | none =>
    match (Url.query? url).bind actionOf? with
    | some action => some action
    | none => if hasForm headers then (Utf8.decode? body).bind actionOf? else none

namespace Emulator

variable {σ : Type}

/-- What a dispatch leaves: the emulator, what happened, and the outcome. -/
abbrev Dispatched (σ : Type) := Emulator σ × List Event × Except DispatchError Response

/-- Count an answered request. -/
def record (e : Emulator σ) (service : String) (status : UInt16) : Emulator σ :=
  { e with counters := e.counters.addRequest service status.toNat }

/-- Pass a response through the response hooks and count it. After a handler the
length is stated again, since a hook may have replaced the body. -/
def finish (e : Emulator σ) (events : List Event) (request : ServiceRequest) (handled : Bool)
    (response : Response) : Dispatched σ :=
  let (pipeline, calls, response) := e.pipeline.runResponse request response
  let response := if handled then response.withContentLength else response
  (({ e with pipeline } : Emulator σ).record request.service response.status,
    events ++ calls.map .hook, .ok response)

/-- Answer a request that no extension answered. -/
def answerUnhooked (e : Emulator σ) (events : List Event) (i : Instance σ)
    (route : Option (Route (Handler σ))) (request : ServiceRequest) : Dispatched σ :=
  match route with
  | none => e.finish events request false .notImplemented
  | some route =>
    let (e, handled, result) := e.handle i route.handler request
    let events := events ++ .handler request :: handled
    match result with
    | .answer r => e.finish events request true r.withContentLength
    | .domain failure => e.finish events request true failure.toResponse.withContentLength
    | .fatal message =>
      ({ e with counters := e.counters.addHandlerFailure request.service }, events,
        .error (.handler request.service request.operation message))
    | .panic => (e, events, .error .panicked)

/-- Answer a request of a known operation: by an extension if one gives a
response, and else by its handler. -/
def answer (e : Emulator σ) (i : Instance σ) (route : Option (Route (Handler σ)))
    (request : ServiceRequest) : Dispatched σ :=
  let (pipeline, calls, short) := e.pipeline.runRequest request
  let e := { e with pipeline }
  match short with
  | some (id, response) =>
    (({ e with counters := e.counters.addShortCircuit id } : Emulator σ).record
      request.service response.status, calls.map .hook, .ok response)
  | none => e.answerUnhooked (calls.map .hook) i route request

/-- The request as extensions and handlers see it. -/
def serviceRequest (e : Emulator σ) (r : IncomingRequest) (headers : Headers)
    (service region : String) (route : Option (Route (Handler σ))) : ServiceRequest where
  method := r.method
  url := r.url
  headers := headers
  body := r.body
  service := service
  operation := (route.bind (·.operation)).or (deriveOperation? headers r.url r.body)
  account := e.config.account
  region := region

/-- Answer a request of a registered service. -/
def serve (e : Emulator σ) (r : IncomingRequest) (headers : Headers)
    (registration : Registration σ) : Dispatched σ :=
  let region := registration.descriptor.scope.preferred
  match e.registry.instanceOf registration e.config.account region with
  | (registry, .error fault) => ({ e with registry }, [], .error (.backend fault))
  | (registry, .ok i) =>
    let route := i.backend.routes.find? r.method r.url
    let request := e.serviceRequest r headers registration.name region route
    ({ e with registry } : Emulator σ).answer i route request

/-- Answer a request. Without a registered service there is nothing that could
answer it. -/
def dispatch (e : Emulator σ) (r : IncomingRequest) : Dispatched σ :=
  match Headers.ofRaw r.headers with
  | .error name => (e, [], .error (.invalidHeader name))
  | .ok headers =>
    match (e.index.classify? r.url).bind e.registry.get? with
    | none => (e, [], .ok .notImplemented)
    | some registration => e.serve r headers registration

end Emulator

end CloudEmulator
