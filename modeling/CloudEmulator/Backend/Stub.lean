import CloudEmulator.Backend.Registry

/-!
# Stub backends

Services that are described by data: routes with canned answers, a list of items
to push to and to read, and an echo of the request.
-/

namespace CloudEmulator.Stub

/-- The items of a stub; backends that are no stubs have none. -/
abbrev State := Option (List String)

/-- What a route of a stub does. -/
inductive Action where
  | reply (r : Response)
  | domain (e : DomainError)
  | fatal (message : String)
  | panic
  /-- Add the body to the items. -/
  | push
  /-- Give the items. -/
  | list
  /-- Give the request itself. -/
  | echo

/-- A text, or nothing. -/
def optional (s : Option String) : Json :=
  s.elim .null .str

/-- Octets as a text, or in hexadecimal where they are none. -/
def bytesJson (bytes : Bytes) : Json :=
  match Utf8.decode? bytes with
  | some s => .str s
  | none =>
    let digits := bytes.flatMap fun b =>
      [Nat.digitChar (b.toNat / 16), Nat.digitChar (b.toNat % 16)]
    .object [("hex", .str (String.ofList digits))]

/-- A request as JSON. -/
def requestJson (r : ServiceRequest) : Json :=
  .sorted [
    ("account", .str r.account),
    ("body", bytesJson r.body),
    ("headers", .array (r.headers.entries.map fun (n, v) => .array [.str n, .str v])),
    ("host", optional r.host?),
    ("key", optional r.selectorKey?),
    ("method", .str r.method),
    ("operation", optional r.operation),
    ("params", .sorted (r.parameters.map fun (n, v) => (n, .str v))),
    ("path", .str r.path),
    ("query", optional r.query?),
    ("region", .str r.region),
    ("service", .str r.service),
    ("url", .str r.url)]

/-- Add the body of a request to the items, which must not be empty. -/
def pushItem (state : State) (r : ServiceRequest) : State × HandlerResult :=
  let items := state.getD []
  let item := r.bodyText
  if item.isEmpty then
    (state, .domain (({ status := 400, body := Utf8.encode "empty item" } : DomainError).withHeader
      "X-Error" "EmptyItem"))
  else
    (some (items ++ [item]), .answer (.text 201 (toString (items.length + 1))))

/-- Do what a route says. -/
def run (action : Action) (state : State) (r : ServiceRequest) : State × HandlerResult :=
  match action with
  | .reply response => (state, .answer response)
  | .domain e => (state, .domain e)
  | .fatal message => (state, .fatal message)
  | .panic => (state, .panic)
  | .push => pushItem state r
  | .list => (state, .answer (.text 200 (",".intercalate (state.getD []))))
  | .echo => (state, .answer (.json 200 (requestJson r)))

/-- A stub service. -/
structure Service where
  name : String
  scope : RegionScope
  urlBases : List String
  operations : List String
  routes : List (RouteSpec Action)
  /-- The bases of the routes. -/
  routeBases : List String
  /-- How many constructions fail before one succeeds. -/
  failFirst : Nat

/-- The handler of a route. -/
def handlerSpec (spec : RouteSpec Action) : RouteSpec (Handler State) where
  path := spec.path
  method := spec.method
  operation := spec.operation
  handler := .own (run spec.handler)

/-- Construct the backend of a stub. -/
def construct (s : Service) (attempt : Nat) (region account : String) :
    Except ConstructionFault (Backend State) :=
  if attempt ≤ s.failFirst then
    .error (.failed ("attempt " ++ toString attempt ++ " fails for " ++ region ++ "/" ++ account))
  else
    match RouteTable.build s.routeBases (s.routes.map handlerSpec) with
    | .ok routes => .ok ⟨routes, some [], fun _ => some []⟩
    | .error _ => .error .invalidPattern

/-- The descriptor of a stub. -/
def Service.descriptor (s : Service) : ServiceDescriptor State where
  name := s.name
  scope := s.scope
  urlBases := s.urlBases
  operations := s.operations
  factory := construct s

end CloudEmulator.Stub
