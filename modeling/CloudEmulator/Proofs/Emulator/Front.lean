import CloudEmulator.Proofs.Backend.Faces
import CloudEmulator.Proofs.Emulator.Schedule

/-!
# The front of an emulator

Without extensions, what a request comes to and how it ends depends on the front of the
emulator alone: the account, the URL index, and the faces of the services. What it leaves
of the front depends on no more. Further instances and the counters are behind the front;
two endpoints of the management service tell of them.
-/

namespace CloudEmulator

variable {σ : Type}

/-- The action of a handler of the management service. -/
def Handler.action? : Handler σ → Option ManagementAction
  | .own _ => none
  | .management action => some action

/-- A handler with an action is one of the management service. -/
theorem Handler.action?_eq_some_iff {handler : Handler σ} {action : ManagementAction} :
    handler.action? = some action ↔ handler = .management action := by
  cases handler with
  | own run => simp [action?]
  | management other => simp [action?]

/-- How a dispatch ends whose handler ends with the result. -/
def HandlerResult.outcome (request : ServiceRequest) : HandlerResult → Except DispatchError Response
  | .answer s => .ok s.withContentLength.withContentLength
  | .domain failure => .ok failure.toResponse.withContentLength.withContentLength
  | .fatal message => .error (.handler request.service request.operation message)
  | .panic => .error .panicked

/-- What requests see of an emulator. -/
structure Front (σ : Type) where
  account : String
  index : UrlIndex
  face? : String → Option (Face σ)

/-- What a request comes to. -/
inductive Visit (σ : Type) where
  /-- A header that is not UTF-8. -/
  | refused (header : String)
  /-- No service, or no route of it. -/
  | nowhere
  /-- A handler, which is to handle the request on an instance. -/
  | arrived (request : ServiceRequest) (face : Face σ) (handler : Handler σ)

namespace Front

/-- The front with all faces renewed. -/
def renewed (f : Front σ) : Front σ :=
  { f with face? := fun service => (f.face? service).map Face.renewed }

/-- The front with another face of a service. -/
def put (f : Front σ) (service : String) (face : Face σ) : Front σ where
  account := f.account
  index := f.index
  face? := Function.update f.face? service (some face)

/-- The request as the handler of a route sees it. -/
def request (f : Front σ) (r : IncomingRequest) (headers : Headers) (service : String)
    (face : Face σ) (route : Route (Handler σ)) : ServiceRequest where
  method := r.method
  url := r.url
  headers := headers
  body := r.body
  service := service
  operation := route.operation.or (deriveOperation? headers r.url r.body)
  account := f.account
  region := face.region

/-- What a request for a service comes to, if the service is registered. -/
def visitFace (f : Front σ) (r : IncomingRequest) (headers : Headers) (service : String) :
    Option (Face σ) → Visit σ
  | none => .nowhere
  | some face =>
    match face.backend.routes.find? r.method r.url with
    | none => .nowhere
    | some route => .arrived (f.request r headers service face route) face route.handler

/-- What a request comes to. -/
def visit (f : Front σ) (r : IncomingRequest) : Visit σ :=
  match Headers.ofRaw r.headers with
  | .error name => .refused name
  | .ok headers =>
    match f.index.classify? r.url with
    | none => .nowhere
    | some service => f.visitFace r headers service (f.face? service)

end Front

namespace Visit

/-- The action of the management service that the request asks for. -/
def endpoint? : Visit σ → Option ManagementAction
  | arrived _ _ handler => handler.action?
  | _ => none

/-- How the dispatch of the request ends. What two endpoints tell is behind the front. -/
def outcome? : Visit σ → Option (Except DispatchError Response)
  | refused name => some (.error (.invalidHeader name))
  | nowhere => some (.ok .notImplemented)
  | arrived request face (.own run) => some ((run face.state request).2.outcome request)
  | arrived request _ (.management .reset) =>
    some ((HandlerResult.answer Management.okStatus).outcome request)
  | arrived request _ (.management .health) =>
    some ((HandlerResult.answer Management.okStatus).outcome request)
  | arrived _ _ (.management .listBackends) => none
  | arrived _ _ (.management .metrics) => none

/-- The front that is left when the request was handled. -/
def moved (f : Front σ) : Visit σ → Front σ
  | arrived request face (.own run) =>
    f.put request.service { face with state := (run face.state request).1 }
  | arrived _ _ (.management .reset) => f.renewed
  | _ => f

/-- The visit, if all faces were renewed before. -/
def renewed : Visit σ → Visit σ
  | arrived request face handler => arrived request face.renewed handler
  | visit => visit

end Visit

namespace Front

variable {f : Front σ} {r : IncomingRequest}

/-- Renewed faces are as they were built. -/
@[simp] theorem renewed_renewed (f : Front σ) : f.renewed.renewed = f.renewed := by
  have hface : ∀ face? : Option (Face σ),
      (face?.map Face.renewed).map Face.renewed = face?.map Face.renewed := by
    intro face?
    cases face? <;> rfl
  simp only [renewed, hface]

/-- A request comes to the same handler whatever the states are. -/
theorem visit_renewed (f : Front σ) (r : IncomingRequest) :
    f.renewed.visit r = (f.visit r).renewed := by
  unfold visit
  cases Headers.ofRaw r.headers with
  | error name => rfl
  | ok headers =>
    simp only [renewed]
    cases f.index.classify? r.url with
    | none => rfl
    | some service =>
      simp only
      cases f.face? service with
      | none => rfl
      | some face =>
        simp only [visitFace, Option.map_some, Face.renewed]
        cases face.backend.routes.find? r.method r.url <;> rfl

/-- A handler that a request comes to belongs to a face of the front. -/
theorem face?_of_visit {request : ServiceRequest} {face : Face σ} {handler : Handler σ}
    (h : f.visit r = .arrived request face handler) : f.face? request.service = some face := by
  unfold visit at h
  split at h
  · cases h
  · split at h
    · cases h
    · next service hservice =>
      unfold visitFace at h
      split at h
      · cases h
      · next found hfound =>
        split at h
        · cases h
        · cases h
          exact hfound

/-- Handling a request leaves the faces that renewal would leave. -/
theorem renewed_moved (f : Front σ) (r : IncomingRequest) :
    ((f.visit r).moved f).renewed = f.renewed := by
  cases hvisit : f.visit r with
  | refused name => rfl
  | nowhere => rfl
  | arrived request face handler =>
    have hface := face?_of_visit hvisit
    cases handler with
    | own run =>
      simp only [Visit.moved, renewed, put]
      congr 1
      funext service
      by_cases hsame : service = request.service
      · rw [hsame, Function.update_self, hface]
        rfl
      · rw [Function.update_of_ne hsame]
    | management action => cases action <;> simp [Visit.moved]

/-- Which endpoint a request asks for does not depend on the states. -/
theorem endpoint?_visit_renewed (f : Front σ) (r : IncomingRequest) :
    (f.renewed.visit r).endpoint? = (f.visit r).endpoint? := by
  rw [visit_renewed]
  cases f.visit r <;> rfl

/-- Only two endpoints tell of what is behind the front. -/
theorem exists_outcome {v : Visit σ} (hlist : v.endpoint? ≠ some .listBackends)
    (hmetrics : v.endpoint? ≠ some .metrics) : ∃ outcome, v.outcome? = some outcome := by
  cases v with
  | refused name => exact ⟨_, rfl⟩
  | nowhere => exact ⟨_, rfl⟩
  | arrived request face handler =>
    cases handler with
    | own run => exact ⟨_, rfl⟩
    | management action =>
      cases action with
      | reset => exact ⟨_, rfl⟩
      | health => exact ⟨_, rfl⟩
      | listBackends => exact absurd rfl hlist
      | metrics => exact absurd rfl hmetrics

/-- A request for a reset renews the front. -/
theorem moved_of_reset {v : Visit σ} (h : v.endpoint? = some .reset) (f : Front σ) :
    v.moved f = f.renewed := by
  cases v with
  | refused name => cases h
  | nowhere => cases h
  | arrived request face handler =>
    obtain rfl := Handler.action?_eq_some_iff.mp h
    rfl

end Front

namespace Pipeline

/-- Without extensions no request hook runs. -/
theorem runRequest_of_empty {p : Pipeline} (h : p.entries = []) (r : ServiceRequest) :
    p.runRequest r = (p, [], none) := by
  unfold runRequest
  split
  · rfl
  · rw [h, passRequest, ← h]

/-- Without extensions no response hook runs. -/
theorem runResponse_of_empty {p : Pipeline} (h : p.entries = []) (r : ServiceRequest)
    (s : Response) : p.runResponse r s = (p, [], s) := by
  unfold runResponse
  split
  · rfl
  · rw [h, passResponse, ← h]

end Pipeline

namespace Emulator

variable {e e' : Emulator σ} {r : IncomingRequest} {i : Instance σ} {request : ServiceRequest}

/-- What requests see of an emulator. -/
def front (e : Emulator σ) : Front σ :=
  ⟨e.config.account, e.index, e.registry.face? e.config.account⟩

/-- The action of the management service that a dispatch of the request comes to. -/
def endpoint? (e : Emulator σ) (r : IncomingRequest) : Option ManagementAction :=
  (e.admission? r).bind fun a => (a.route r).bind fun matched => matched.handler.action?

/-- The request asks for nothing that is behind the front. -/
def Quiet (e : Emulator σ) (r : IncomingRequest) : Prop :=
  e.endpoint? r ≠ some .listBackends ∧ e.endpoint? r ≠ some .metrics

/-- An emulator without extensions whose registry can be renewed. -/
structure Plain (e : Emulator σ) : Prop where
  hookless : e.pipeline.entries = []
  renewable : e.registry.Renewable

/-- Without extensions, a response to a handled request is finished by counting it, and by
stating its length. -/
theorem finish_hookless (hhookless : e.pipeline.entries = []) (events : List Event)
    (request : ServiceRequest) (handled : Bool) (s : Response) :
    ∃ counters, (e.finish events request handled s).1 = { e with counters } ∧
      (e.finish events request handled s).2.2 =
        .ok (if handled then s.withContentLength else s) := by
  unfold finish
  rw [Pipeline.runResponse_of_empty hhookless]
  exact ⟨_, rfl, rfl⟩

/-- No handler touches the extensions. -/
theorem pipeline_handle (e : Emulator σ) (i : Instance σ) (h : Handler σ)
    (request : ServiceRequest) : (e.handle i h request).1.pipeline = e.pipeline := by
  cases h with
  | own run => rfl
  | management action => cases action <;> rfl

/-- Without extensions, a request without a route is answered as not implemented. -/
theorem answer_hookless_none (hhookless : e.pipeline.entries = []) (i : Instance σ)
    (request : ServiceRequest) :
    ∃ counters, (e.answer i none request).1 = { e with counters } ∧
      (e.answer i none request).2.2 = .ok .notImplemented := by
  unfold answer
  rw [Pipeline.runRequest_of_empty hhookless]
  exact finish_hookless hhookless _ request false .notImplemented

/-- Without extensions, a request with a route ends as its handler says. -/
theorem answer_hookless_some (hhookless : e.pipeline.entries = []) (i : Instance σ)
    (route : Route (Handler σ)) (request : ServiceRequest) :
    ∃ counters,
      (e.answer i (some route) request).1 =
        { (e.handle i route.handler request).1 with counters } ∧
      (e.answer i (some route) request).2.2 =
        (e.handle i route.handler request).2.2.outcome request := by
  have hkept := pipeline_handle e i route.handler request
  unfold answer
  rw [Pipeline.runRequest_of_empty hhookless]
  simp only [answerUnhooked]
  rcases hhandle : e.handle i route.handler request with ⟨next, events, result⟩
  rw [hhandle] at hkept
  have hnext : next.pipeline.entries = [] := by rw [hkept, hhookless]
  cases result with
  | answer s => exact finish_hookless hnext _ request true s.withContentLength
  | domain failure =>
    exact finish_hookless hnext _ request true failure.toResponse.withContentLength
  | fatal message => exact ⟨_, rfl, rfl⟩
  | panic => exact ⟨next.counters, rfl, rfl⟩

/-- A handler that resets nothing works on the front as the visit says. -/
theorem front_handle (h : e.registry.Consistent) (request : ServiceRequest) (handler : Handler σ)
    (hholds : e.registry.Holds e.config.account request.service i)
    (hkeeps : handler.action? ≠ some .reset) :
    (e.handle i handler request).1.front =
      (Visit.arrived request i.face handler).moved e.front := by
  cases handler with
  | own run =>
    have hface := h.face?_setState hholds (run i.state request).1
    exact congrArg (Front.mk e.config.account e.index) hface
  | management action =>
    cases action with
    | reset => exact absurd rfl hkeeps
    | health => rfl
    | listBackends => rfl
    | metrics => rfl

/-- A handler ends as the visit says, if the front tells how that is. -/
theorem outcome_handle (e : Emulator σ) (i : Instance σ) (handler : Handler σ)
    (request : ServiceRequest) {outcome : Except DispatchError Response}
    (h : (Visit.arrived request i.face handler).outcome? = some outcome) :
    (e.handle i handler request).2.2.outcome request = outcome := by
  cases handler with
  | own run => exact Option.some.inj h
  | management action =>
    cases action with
    | reset => exact Option.some.inj h
    | health => exact Option.some.inj h
    | listBackends => cases h
    | metrics => cases h

/-- An emulator without extensions whose services can be constructed. -/
structure Sturdy (e : Emulator σ) : Prop where
  hookless : e.pipeline.entries = []
  consistent : e.registry.Consistent
  services : ∀ g ∈ e.registry.registrations, g.descriptor.Builds

/-- The course of a dispatch without extensions, along with the visit of the request: what
the dispatch leaves, and how it ends. -/
inductive Course (e : Emulator σ) (r : IncomingRequest) :
    Emulator σ → Except DispatchError Response → Prop where
  /-- A header stops it. -/
  | refused {name : String} (unadmitted : e.admission? r = none)
      (visit : e.front.visit r = .refused name) : Course e r e (.error (.invalidHeader name))
  /-- There is no service for the URL. -/
  | unserved (unadmitted : e.admission? r = none) (visit : e.front.visit r = .nowhere) :
      Course e r e (.ok .notImplemented)
  /-- The service has no route for the request. -/
  | unrouted {a : Admission σ} (counters : Counters) (admits : e.Admits r a)
      (missing : a.route r = none) (visit : e.front.visit r = .nowhere) :
      Course e r { e with registry := a.registry, counters } (.ok .notImplemented)
  /-- A handler works on the instance. -/
  | handled {a : Admission σ} {matched : Route (Handler σ)} {next : Emulator σ}
      {events : List Event} {result : HandlerResult} (counters : Counters)
      (admits : e.Admits r a) (found : a.route r = some matched)
      (visit : e.front.visit r = .arrived (a.request e r) a.target.face matched.handler)
      (run : ({ e with registry := a.registry } : Emulator σ).handle a.target matched.handler
        (a.request e r) = (next, events, result)) :
      Course e r { next with counters } (result.outcome (a.request e r))

namespace Sturdy

/-- Access to its instance changes nothing that an admitted request sees, and the instance
is what it sees. -/
theorem admitted (h : e.Sturdy) {a : Admission σ} (hadmits : e.Admits r a) :
    a.registry.Consistent ∧
      ({ e with registry := a.registry } : Emulator σ).front = e.front ∧
      a.registry.Holds e.config.account a.registration.name a.target := by
  obtain ⟨hface, hholds⟩ := h.consistent.face?_instanceOf hadmits.registered hadmits.instanced
  have hconsistent := h.consistent.accessed (Registry.accessed_of_eq hadmits.instanced)
  exact ⟨hconsistent, congrArg (Front.mk e.config.account e.index) hface, hholds⟩

/-- What an admitted request comes to. -/
theorem visit_of_admits (h : e.Sturdy) {a : Admission σ} (hadmits : e.Admits r a) :
    e.front.visit r = match a.route r with
      | none => .nowhere
      | some matched => .arrived (a.request e r) a.target.face matched.handler := by
  obtain ⟨-, hfront, hholds⟩ := h.admitted hadmits
  have hface : e.front.face? a.registration.name = some a.target.face := by
    rw [← hfront]
    exact hholds.face?_eq
  have hregion : a.target.face.region = a.region :=
    congrArg (fun key => key.2.2) (Registry.key_of_instanceOf hadmits.instanced)
  have hclassified : e.front.index.classify? r.url = some a.registration.name := hadmits.classified
  unfold Front.visit
  simp only [hadmits.headers, hclassified, hface, Front.visitFace]
  cases hroute : a.route r with
  | none =>
    have hfind : a.target.face.backend.routes.find? r.method r.url = none := hroute
    simp only [hfind]
  | some matched =>
    have hfind : a.target.face.backend.routes.find? r.method r.url = some matched := hroute
    have hrequest : e.front.request r a.headers a.registration.name a.target.face matched =
        a.request e r := by
      rw [Admission.request, hroute, ← hregion]
      rfl
    simp only [hfind, hrequest]

/-- The course of a dispatch of an admitted request. -/
theorem course_of_admits (h : e.Sturdy) {a : Admission σ} (hadmits : e.Admits r a) :
    e.Course r (e.dispatch r).1 (e.dispatch r).2.2 := by
  have hvisit := h.visit_of_admits hadmits
  have hdispatch := dispatch_of_admits hadmits
  let accessed : Emulator σ := { e with registry := a.registry }
  have hhookless : accessed.pipeline.entries = [] := h.hookless
  cases hroute : a.route r with
  | none =>
    rw [hroute] at hvisit hdispatch
    obtain ⟨counters, hnext, houtcome⟩ :=
      answer_hookless_none hhookless a.target (a.request e r)
    rw [hdispatch, hnext, houtcome]
    exact .unrouted counters hadmits hroute hvisit
  | some matched =>
    rw [hroute] at hvisit hdispatch
    obtain ⟨counters, hnext, houtcome⟩ :=
      answer_hookless_some hhookless a.target matched (a.request e r)
    rw [hdispatch, hnext, houtcome]
    exact .handled counters hadmits hroute hvisit rfl

/-- Every dispatch goes one of the four ways. -/
theorem course (h : e.Sturdy) (r : IncomingRequest) :
    e.Course r (e.dispatch r).1 (e.dispatch r).2.2 := by
  rcases e.stopped_or_admitted r with ⟨name, hheaders⟩ | ⟨headers, hheaders, hservice⟩ |
    ⟨headers, g, next, fault, hheaders, hservice, hinstance⟩ | ⟨a, hadmits⟩
  · have hadmission : e.admission? r = none := by simp only [admission?, hheaders]
    have hvisit : e.front.visit r = .refused name := by simp only [Front.visit, hheaders]
    rw [dispatch_of_invalid hheaders]
    exact .refused hadmission hvisit
  · have hadmission : e.admission? r = none := by simp only [admission?, hheaders, hservice]
    have hvisit : e.front.visit r = .nowhere := by
      simp only [Front.visit, hheaders]
      cases hclassified : e.index.classify? r.url with
      | none =>
        have hnone : e.front.index.classify? r.url = none := hclassified
        simp only [hnone]
      | some service =>
        have hsome : e.front.index.classify? r.url = some service := hclassified
        have hunregistered : e.registry.get? service = none := by
          rwa [hclassified, Option.bind_some] at hservice
        have hface : e.front.face? service = none :=
          Registry.face?_of_unregistered hunregistered
        simp only [hsome, hface, Front.visitFace]
    rw [dispatch_of_unserved hheaders hservice]
    exact .unserved hadmission hvisit
  · -- A service that can be constructed gives an instance, so no dispatch stops there.
    obtain ⟨-, hregistered⟩ := served_iff.mp hservice
    have hbuilds := h.services g (List.mem_of_find?_eq_some hregistered)
    obtain ⟨next', i, hgiven⟩ := Registry.exists_instanceOf e.registry hbuilds e.config.account
    rw [hinstance] at hgiven
    cases hgiven
  · exact h.course_of_admits hadmits

/-- A dispatch comes to the endpoint that the visit comes to. -/
theorem endpoint?_eq (h : e.Sturdy) (r : IncomingRequest) :
    e.endpoint? r = (e.front.visit r).endpoint? := by
  have hcourse := h.course r
  generalize (e.dispatch r).1 = next, (e.dispatch r).2.2 = ending at hcourse
  cases hcourse with
  | refused unadmitted visit => rw [endpoint?, unadmitted, visit, Option.bind_none]; rfl
  | unserved unadmitted visit => rw [endpoint?, unadmitted, visit, Option.bind_none]; rfl
  | unrouted counters admits missing visit =>
    simp only [endpoint?, admission?_eq_some_iff.mpr admits, Option.bind_some, missing, visit]
    rfl
  | handled counters admits found visit run =>
    simp only [endpoint?, admission?_eq_some_iff.mpr admits, Option.bind_some, found, visit]
    rfl

/-- A dispatch ends as the visit ends, if the front tells how that is. -/
theorem outcome_eq (h : e.Sturdy) (r : IncomingRequest) {outcome : Except DispatchError Response}
    (houtcome : (e.front.visit r).outcome? = some outcome) : (e.dispatch r).2.2 = outcome := by
  have hcourse := h.course r
  generalize (e.dispatch r).1 = next, (e.dispatch r).2.2 = ending at hcourse ⊢
  cases hcourse with
  | refused unadmitted visit =>
    rw [visit] at houtcome
    exact Option.some.inj houtcome
  | unserved unadmitted visit =>
    rw [visit] at houtcome
    exact Option.some.inj houtcome
  | unrouted counters admits missing visit =>
    rw [visit] at houtcome
    exact Option.some.inj houtcome
  | @handled a matched next events result counters admits found visit run =>
    rw [visit] at houtcome
    let accessed : Emulator σ := { e with registry := a.registry }
    have hends := outcome_handle accessed a.target matched.handler (a.request e r) houtcome
    rwa [run] at hends

/-- Emulators with the same front end a dispatch in the same way, unless the request asks for
what is behind the front. -/
theorem outcome_congr (h : e.Sturdy) (h' : e'.Sturdy) (hfront : e.front = e'.front)
    (hquiet : e.Quiet r) : (e.dispatch r).2.2 = (e'.dispatch r).2.2 := by
  obtain ⟨hlist, hmetrics⟩ := hquiet
  rw [h.endpoint?_eq] at hlist hmetrics
  obtain ⟨outcome, houtcome⟩ := Front.exists_outcome hlist hmetrics
  have houtcome' : (e'.front.visit r).outcome? = some outcome := hfront ▸ houtcome
  rw [h.outcome_eq r houtcome, h'.outcome_eq r houtcome']

/-- Which endpoint a request comes to is told by the front, and does not depend on the states
of its faces. -/
theorem endpoint?_congr (h : e.Sturdy) (h' : e'.Sturdy)
    (hrenewed : e.front.renewed = e'.front.renewed) (r : IncomingRequest) :
    e.endpoint? r = e'.endpoint? r := by
  calc e.endpoint? r = (e.front.visit r).endpoint? := h.endpoint?_eq r
    _ = (e.front.renewed.visit r).endpoint? := (Front.endpoint?_visit_renewed _ r).symm
    _ = (e'.front.renewed.visit r).endpoint? := by rw [hrenewed]
    _ = (e'.front.visit r).endpoint? := Front.endpoint?_visit_renewed _ r
    _ = e'.endpoint? r := (h'.endpoint?_eq r).symm

end Sturdy

/-- A plain emulator has services that can be constructed. -/
theorem Plain.sturdy (h : e.Plain) : e.Sturdy :=
  ⟨h.hookless, h.renewable.consistent, fun g hg => (h.renewable.services g hg).builds⟩

/-- A reset renews the front. -/
theorem Plain.reset (h : e.Plain) : e.reset.1.Plain ∧ e.reset.1.front = e.front.renewed := by
  have hface := h.renewable.face?_resetAll e.config.account
  exact ⟨⟨h.hookless, h.renewable.resetAll⟩, congrArg (Front.mk e.config.account e.index) hface⟩

/-- The handler of a route leaves the emulator plain, and works on its front as the visit
says. -/
theorem Plain.handle (h : e.Plain) (request : ServiceRequest) {route : Route (Handler σ)}
    (hholds : e.registry.Holds e.config.account request.service i)
    (hroute : route ∈ i.backend.routes.routes) :
    (e.handle i route.handler request).1.Plain ∧
      (e.handle i route.handler request).1.front =
        (Visit.arrived request i.face route.handler).moved e.front := by
  have hkept := pipeline_handle e i route.handler request
  have hhookless : (e.handle i route.handler request).1.pipeline.entries = [] := by
    rw [hkept, h.hookless]
  have hfront := front_handle h.renewable.consistent request route.handler hholds
  cases hhandler : route.handler with
  | own run =>
    rw [hhandler] at hhookless hfront
    have hactive := hholds.active
    have hreaches : i.backend.Reaches (run i.state request).1 :=
      .handled (h.renewable.instances i hactive).2 hroute hhandler request
    exact ⟨⟨hhookless, h.renewable.setState hactive.1 hreaches⟩, hfront nofun⟩
  | management action =>
    cases action with
    | reset => exact h.reset
    | health => exact ⟨h, rfl⟩
    | listBackends => exact ⟨h, rfl⟩
    | metrics => exact ⟨h, rfl⟩

/-- What a dispatch does, told by the visit of the request: it leaves a plain emulator with
the front that the visit leaves, it comes to the endpoint that the visit comes to, and it
ends as the visit ends, if the front tells how that is. -/
structure Mirrored (e : Emulator σ) (r : IncomingRequest) : Prop where
  plain : (e.dispatch r).1.Plain
  front : (e.dispatch r).1.front = (e.front.visit r).moved e.front
  endpoint : e.endpoint? r = (e.front.visit r).endpoint?
  outcome : ∀ outcome, (e.front.visit r).outcome? = some outcome → (e.dispatch r).2.2 = outcome

/-- A dispatch leaves a plain emulator plain, and the front that the visit leaves. -/
theorem Plain.dispatch (h : e.Plain) (r : IncomingRequest) :
    (e.dispatch r).1.Plain ∧ (e.dispatch r).1.front = (e.front.visit r).moved e.front := by
  have hcourse := h.sturdy.course r
  generalize (e.dispatch r).1 = next, (e.dispatch r).2.2 = ending at hcourse ⊢
  cases hcourse with
  | refused unadmitted visit =>
    rw [visit]
    exact ⟨h, rfl⟩
  | unserved unadmitted visit =>
    rw [visit]
    exact ⟨h, rfl⟩
  | unrouted counters admits missing visit =>
    obtain ⟨-, hfront, -⟩ := h.sturdy.admitted admits
    have hrenewable := h.renewable.instanceOf admits.registered admits.instanced
    rw [visit]
    exact ⟨⟨h.hookless, hrenewable⟩, hfront⟩
  | @handled a matched next events result counters admits found visit run =>
    obtain ⟨-, hfront, hholds⟩ := h.sturdy.admitted admits
    let accessed : Emulator σ := { e with registry := a.registry }
    have haccessed : accessed.Plain :=
      ⟨h.hookless, h.renewable.instanceOf admits.registered admits.instanced⟩
    obtain ⟨hafter, hmoved⟩ :=
      haccessed.handle (a.request e r) hholds (List.mem_of_find?_eq_some found)
    rw [run] at hafter hmoved
    rw [hfront, ← visit] at hmoved
    exact ⟨⟨hafter.hookless, hafter.renewable⟩, hmoved⟩

/-- Every dispatch of a plain emulator is told by its visit. -/
theorem Plain.mirrored (h : e.Plain) (r : IncomingRequest) : e.Mirrored r :=
  ⟨(h.dispatch r).1, (h.dispatch r).2, h.sturdy.endpoint?_eq r, fun _ => h.sturdy.outcome_eq r⟩

/-- The emulator that some dispatches leave. -/
def served (e : Emulator σ) (rs : List IncomingRequest) : Emulator σ :=
  rs.foldl (fun e r => (e.dispatch r).1) e

/-- How some dispatches end, one after the other. -/
def outcomes (e : Emulator σ) : List IncomingRequest → List (Except DispatchError Response)
  | [] => []
  | r :: rs => (e.dispatch r).2.2 :: (e.dispatch r).1.outcomes rs

/-- Dispatches of a plain emulator leave it plain, and leave its faces up to renewal. The
induction is on the requests; each dispatch is told by its visit. -/
theorem Plain.served (h : e.Plain) (rs : List IncomingRequest) :
    (e.served rs).Plain ∧ (e.served rs).front.renewed = e.front.renewed := by
  induction rs generalizing e with
  | nil => exact ⟨h, rfl⟩
  | cons r rs ih =>
    have hmirrored := h.mirrored r
    obtain ⟨hplain, hrenewed⟩ := ih hmirrored.plain
    refine ⟨hplain, hrenewed.trans ?_⟩
    rw [hmirrored.front, Front.renewed_moved]

/-- A request asks for what is behind the front, or not, also after other requests. -/
theorem Plain.quiet_dispatch (h : e.Plain) (r : IncomingRequest) {later : IncomingRequest}
    (hquiet : e.Quiet later) : (e.dispatch r).1.Quiet later := by
  have hmirrored := h.mirrored r
  have hrenewed : (e.dispatch r).1.front.renewed = e.front.renewed := by
    rw [hmirrored.front, Front.renewed_moved]
  unfold Quiet at hquiet ⊢
  rw [hmirrored.plain.sturdy.endpoint?_congr h.sturdy hrenewed]
  exact hquiet

/-- **The front decides.** Plain emulators with the same front answer the same requests in
the same way, apart from those that ask for what is behind the front. The induction is on
the requests: each dispatch keeps the fronts the same. -/
theorem Plain.outcomes_eq (h : e.Plain) (h' : e'.Plain) (hfront : e.front = e'.front)
    {rs : List IncomingRequest} (hquiet : ∀ r ∈ rs, e.Quiet r) :
    e.outcomes rs = e'.outcomes rs := by
  induction rs generalizing e e' with
  | nil => rfl
  | cons r rs ih =>
    have hmirrored := h.mirrored r
    have hmirrored' := h'.mirrored r
    have hfirst : (e.dispatch r).2.2 = (e'.dispatch r).2.2 :=
      h.sturdy.outcome_congr h'.sturdy hfront (hquiet r List.mem_cons_self)
    have hnext : (e.dispatch r).1.front = (e'.dispatch r).1.front := by
      rw [hmirrored.front, hmirrored'.front, hfront]
    have hrest := ih hmirrored.plain hmirrored'.plain hnext fun later hlater =>
      h.quiet_dispatch r (hquiet later (List.mem_cons_of_mem _ hlater))
    rw [outcomes, outcomes, hfirst, hrest]

end Emulator

end CloudEmulator
