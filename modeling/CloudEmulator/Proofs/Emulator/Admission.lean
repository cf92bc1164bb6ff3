import CloudEmulator.Backend.Stub
import CloudEmulator.Emulator.Dispatch
import CloudEmulator.Proofs.Backend.Access
import CloudEmulator.Proofs.Extension.HookOrder
import CloudEmulator.Proofs.Http.HeaderInsertion

/-!
# Admission of requests

A dispatch either stops at the door, for a header, an unknown URL or a construction
that fails, or it has an instance of a registered service and goes on to the hooks
and the handler.
-/

namespace CloudEmulator

/-- What a dispatch has found before any hook runs: the decoded headers, the
registration of the service, its instance, and the registry that holds it. -/
structure Admission (σ : Type) where
  headers : Headers
  registration : Registration σ
  registry : Registry σ
  target : Instance σ

namespace Admission

variable {σ : Type}

/-- The region of the instance. -/
def region (a : Admission σ) : String :=
  a.registration.descriptor.scope.preferred

/-- The first route that matches. -/
def route (a : Admission σ) (r : IncomingRequest) : Option (Route (Handler σ)) :=
  a.target.backend.routes.find? r.method r.url

/-- The request as hooks and the handler see it. -/
def request (a : Admission σ) (e : Emulator σ) (r : IncomingRequest) : ServiceRequest :=
  e.serviceRequest r a.headers a.registration.name a.region (a.route r)

end Admission

namespace Emulator

variable {σ : Type}

/-- The headers are UTF-8, the URL belongs to a registered service, and the service
has or constructs the instance that the request is for. -/
structure Admits (e : Emulator σ) (r : IncomingRequest) (a : Admission σ) : Prop where
  headers : Headers.ofRaw r.headers = .ok a.headers
  classified : e.index.classify? r.url = some a.registration.name
  registered : e.registry.get? a.registration.name = some a.registration
  instanced : e.registry.instanceOf a.registration e.config.account a.region =
    (a.registry, .ok a.target)

/-- The extensions that select a request, in the order in which they run. -/
def selected (e : Emulator σ) (request : ServiceRequest) : List Extension :=
  e.pipeline.selected request

/-- A dispatch comes to a handler, which ends with `result`: the request is admitted,
no request hook answers it, and a route matches. -/
structure Handles (e : Emulator σ) (r : IncomingRequest) (a : Admission σ)
    (result : HandlerResult) : Prop where
  admits : e.Admits r a
  silent : Extension.firstAnswer? (a.request e r) (e.selected (a.request e r)) = none
  ends : ∃ matched, a.route r = some matched ∧
    (({ e with registry := a.registry } : Emulator σ).handle a.target matched.handler
      (a.request e r)).2.2 = result

/-- What a dispatch finds, if it admits the request. -/
def admission? (e : Emulator σ) (r : IncomingRequest) : Option (Admission σ) :=
  match Headers.ofRaw r.headers with
  | .error _ => none
  | .ok headers =>
    match (e.index.classify? r.url).bind e.registry.get? with
    | none => none
    | some g =>
      match e.registry.instanceOf g e.config.account g.descriptor.scope.preferred with
      | (_, .error _) => none
      | (registry, .ok target) => some ⟨headers, g, registry, target⟩

/-- An admitted request is answered by hooks and handler. -/
theorem dispatch_of_admits {e : Emulator σ} {r : IncomingRequest} {a : Admission σ}
    (h : e.Admits r a) :
    e.dispatch r =
      ({ e with registry := a.registry } : Emulator σ).answer a.target (a.route r)
        (a.request e r) := by
  have hserve : (e.index.classify? r.url).bind e.registry.get? = some a.registration := by
    rw [h.classified]
    exact h.registered
  have hinstance : e.registry.instanceOf a.registration e.config.account
      a.registration.descriptor.scope.preferred = (a.registry, .ok a.target) := h.instanced
  simp only [dispatch, h.headers, hserve, serve, hinstance]
  rfl

/-- Headers that cannot be decoded end a dispatch before anything else. -/
theorem dispatch_of_invalid {e : Emulator σ} {r : IncomingRequest} {name : String}
    (h : Headers.ofRaw r.headers = .error name) :
    e.dispatch r = (e, [], .error (.invalidHeader name)) := by
  simp only [dispatch, h]

/-- A URL without a registered service is answered by nobody. -/
theorem dispatch_of_unserved {e : Emulator σ} {r : IncomingRequest} {headers : Headers}
    (hheaders : Headers.ofRaw r.headers = .ok headers)
    (hservice : (e.index.classify? r.url).bind e.registry.get? = none) :
    e.dispatch r = (e, [], .ok .notImplemented) := by
  simp only [dispatch, hheaders, hservice]

/-- A service that gives no instance fails the dispatch. -/
theorem dispatch_of_fault {e : Emulator σ} {r : IncomingRequest} {headers : Headers}
    {g : Registration σ} {registry : Registry σ} {fault : RegistryError}
    (hheaders : Headers.ofRaw r.headers = .ok headers)
    (hservice : (e.index.classify? r.url).bind e.registry.get? = some g)
    (hinstance : e.registry.instanceOf g e.config.account g.descriptor.scope.preferred =
      (registry, .error fault)) :
    e.dispatch r = ({ e with registry }, [], .error (.backend fault)) := by
  simp only [dispatch, hheaders, hservice, serve, hinstance]

/-- The registration that serves a URL is the one under the name that the index gives. -/
theorem served_iff {e : Emulator σ} {url : String} {g : Registration σ} :
    (e.index.classify? url).bind e.registry.get? = some g ↔
      e.index.classify? url = some g.name ∧ e.registry.get? g.name = some g := by
  constructor
  · intro h
    obtain ⟨service, hservice, hget⟩ := Option.bind_eq_some_iff.mp h
    have hname := Registry.name_of_get? hget
    exact ⟨by rw [hservice, hname], by rw [hname, hget]⟩
  · rintro ⟨hservice, hget⟩
    rw [hservice]
    exact hget

/-- What a dispatch finds is the one admission that there is. -/
theorem admission?_eq_some_iff {e : Emulator σ} {r : IncomingRequest} {a : Admission σ} :
    e.admission? r = some a ↔ e.Admits r a := by
  constructor
  · intro h
    unfold admission? at h
    split at h
    · cases h
    · next headers hheaders =>
      split at h
      · cases h
      · next g hservice =>
        split at h
        · cases h
        · next registry target hinstance =>
          obtain ⟨hclassified, hregistered⟩ := served_iff.mp hservice
          cases h
          exact ⟨hheaders, hclassified, hregistered, hinstance⟩
  · rintro ⟨hheaders, hclassified, hregistered, hinstance⟩
    have hservice := served_iff.mpr ⟨hclassified, hregistered⟩
    have hinstance' : e.registry.instanceOf a.registration e.config.account
        a.registration.descriptor.scope.preferred = (a.registry, .ok a.target) := hinstance
    simp only [admission?, hheaders, hservice, hinstance']

/-- A request with UTF-8 headers for a registered service that can be constructed is
admitted. -/
theorem exists_admits {e : Emulator σ} {r : IncomingRequest} {g : Registration σ}
    (hheaders : ∀ header ∈ r.headers, (Utf8.decode? header.2).isSome)
    (hclassified : e.index.classify? r.url = some g.name)
    (hregistered : e.registry.get? g.name = some g)
    (hconstructible :
      e.registry.Constructible g e.config.account g.descriptor.scope.preferred) :
    ∃ a, e.Admits r a ∧ a.registration = g := by
  obtain ⟨headers, hdecoded⟩ := Headers.exists_ofRaw_eq_ok hheaders
  obtain ⟨registry, target, hinstance⟩ := hconstructible.instanceOf_preferred
  exact ⟨⟨headers, g, registry, target⟩, ⟨hdecoded, hclassified, hregistered, hinstance⟩, rfl⟩

/-- Every dispatch stops at the door or is admitted. -/
theorem stopped_or_admitted (e : Emulator σ) (r : IncomingRequest) :
    (∃ name, Headers.ofRaw r.headers = .error name) ∨
    (∃ headers, Headers.ofRaw r.headers = .ok headers ∧
      (e.index.classify? r.url).bind e.registry.get? = none) ∨
    (∃ headers g registry fault, Headers.ofRaw r.headers = .ok headers ∧
      (e.index.classify? r.url).bind e.registry.get? = some g ∧
      e.registry.instanceOf g e.config.account g.descriptor.scope.preferred =
        (registry, .error fault)) ∨
    ∃ a, e.Admits r a := by
  cases hheaders : Headers.ofRaw r.headers with
  | error name => exact .inl ⟨name, rfl⟩
  | ok headers =>
    right
    cases hservice : (e.index.classify? r.url).bind e.registry.get? with
    | none => exact .inl ⟨headers, rfl, rfl⟩
    | some g =>
      right
      rcases hinstance : e.registry.instanceOf g e.config.account g.descriptor.scope.preferred
        with ⟨registry, fault | target⟩
      · exact .inl ⟨headers, g, registry, fault, rfl, rfl, hinstance⟩
      · obtain ⟨hclassified, hregistered⟩ := served_iff.mp hservice
        exact .inr ⟨⟨headers, g, registry, target⟩, hheaders, hclassified, hregistered, hinstance⟩

end Emulator

/-! A service with one route, as a case for what follows. -/

namespace Ping

/-- A service in one region that answers one path. -/
def service (action : Stub.Action) (failFirst : Nat) : Stub.Service where
  name := "svc1"
  scope := .regional ["eu-west-1"]
  urlBases := ["http://s"]
  operations := ["Ping"]
  routes := [{ path := "/p", operation := some "Ping", handler := action }]
  routeBases := ["http://s"]
  failFirst := failFirst

/-- An extension for its operation. -/
def observer (id : String) (request : ServiceRequest → Option Response)
    (response : Response → Option Response) : Extension where
  id := id
  selector := ["svc1:Ping"]
  hooks := .native (some request) (some response)

/-- An emulator of the service with some extensions. -/
def emulator (action : Stub.Action) (extensions : List Extension) (failFirst : Nat := 0) :
    Emulator Stub.State :=
  match Emulator.registerService
    { config := {}, pipeline := ({} : Pipeline).registerAll 0 extensions }
    (service action failFirst).descriptor with
  | .ok e => e
  | .error _ => { config := {} }

/-- A request for the path. -/
def request : IncomingRequest where
  method := "GET"
  url := "http://s/p"

end Ping

end CloudEmulator
