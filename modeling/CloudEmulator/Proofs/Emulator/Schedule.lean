import CloudEmulator.Proofs.Emulator.Admission
import Mathlib

/-!
# The schedule of a dispatch

Which hooks and handlers an admitted request runs, in which order and how often, what
each of them sees, and what is left of the extensions. The schedule speaks of the list
of selected extensions only, and of no pass over the pipeline.
-/

namespace CloudEmulator

open Extension (firstAnswer? afterRequest afterResponse rewritten requestCalls responseCalls)

/-- The event is the run of a reset hook. -/
def Event.isReset : Event → Bool
  | .resetHook _ => true
  | _ => false

/-- The response that a handler gives, as a success or as a failure of the emulated
service. A fatal failure and a panic give none. -/
def HandlerResult.response? : HandlerResult → Option Response
  | .answer s => some s
  | .domain failure => some failure.toResponse
  | .fatal _ | .panic => none

namespace Emulator

variable {σ : Type}

/-- The extensions have moved on to `xs`, and nothing else of the pipeline changed. -/
def Hooked (e : Emulator σ) (request : ServiceRequest) (xs : List Extension)
    (e' : Emulator σ) : Prop :=
  Pipeline.Restated request e.pipeline.entries xs e'.pipeline.entries

/-- A handler that acts on the state of an instance has run on it, once. The result is what it
gives, the instance has the state that it leaves, and nothing else happened. -/
structure RanOn (e e' : Emulator σ) (i : Instance σ)
    (act : σ → ServiceRequest → σ × HandlerResult) (request : ServiceRequest)
    (events : List Event) (result : HandlerResult) : Prop where
  result : result = (act i.state request).2
  events : events = []
  /-- The states of all other instances are as they were. -/
  instances : List.Forall₂ (fun before after => after =
      if before.id = i.id then { before with state := (act i.state request).1 } else before)
    e.registry.instances e'.registry.instances
  rest : e' = { e with registry := { e.registry with instances := e'.registry.instances } }

/-- What a dispatch of a request to an instance does once it is admitted. -/
inductive Scheduled (e : Emulator σ) (i : Instance σ) (route : Option (Route (Handler σ)))
    (request : ServiceRequest) : Dispatched σ → Prop where
  /-- A request hook answers. Its response is the outcome; no handler and no response
  hook runs, and the extensions behind it are not called. -/
  | answered {id : String} {s : Response} {e' : Emulator σ}
      (first : firstAnswer? request (e.selected request) = some (id, s))
      (hooked : e.Hooked request (afterRequest request (e.selected request)) e')
      (untouched : e'.registry = e.registry) :
      Scheduled e i route request
        (e', (requestCalls request (e.selected request)).map .hook, .ok s)
  /-- No request hook answers and no route matches. The response hooks get to see that
  nothing is implemented. -/
  | unrouted {xs : List Extension} {e' : Emulator σ}
      (silent : firstAnswer? request (e.selected request) = none)
      (missing : route = none)
      (after : xs = afterRequest request (e.selected request))
      (hooked : e.Hooked request (afterResponse .notImplemented xs) e')
      (untouched : e'.registry = e.registry) :
      Scheduled e i route request
        (e', (requestCalls request (e.selected request)).map .hook ++
          (responseCalls .notImplemented xs).map .hook,
        .ok (rewritten .notImplemented xs))
  /-- The handler gives a response. It runs once, and each response hook runs once on
  what the one before left. -/
  | handled {matched : Route (Handler σ)} {e₁ e' : Emulator σ} {resets : List Event}
      {result : HandlerResult} {s : Response} {xs : List Extension}
      (silent : firstAnswer? request (e.selected request) = none)
      (found : route = some matched)
      (run : e.handle i matched.handler request = (e₁, resets, result))
      (quiet : ∀ event ∈ resets, event.isReset)
      (given : result.response? = some s)
      (after : xs = afterRequest request (e.selected request))
      (hooked : e.Hooked request (afterResponse s.withContentLength xs) e')
      (registry : e'.registry = e₁.registry)
      (ran : ∀ act, matched.handler = .own act → e.RanOn e₁ i act request resets result) :
      Scheduled e i route request
        (e', (requestCalls request (e.selected request)).map .hook ++
          .handler request :: resets ++ (responseCalls s.withContentLength xs).map .hook,
        .ok (rewritten s.withContentLength xs).withContentLength)
  /-- The handler fails fatally or is torn down. It has run once, and no response hook
  runs. -/
  | failed {matched : Route (Handler σ)} {e₁ e' : Emulator σ} {resets : List Event}
      {result : HandlerResult} {fault : DispatchError}
      (silent : firstAnswer? request (e.selected request) = none)
      (found : route = some matched)
      (run : e.handle i matched.handler request = (e₁, resets, result))
      (quiet : ∀ event ∈ resets, event.isReset)
      (given : (∃ message, result = .fatal message ∧
          fault = .handler request.service request.operation message) ∨
        (result = .panic ∧ fault = .panicked))
      (hooked : e.Hooked request (afterRequest request (e.selected request)) e')
      (registry : e'.registry = e₁.registry)
      (ran : ∀ act, matched.handler = .own act → e.RanOn e₁ i act request resets result) :
      Scheduled e i route request
        (e', (requestCalls request (e.selected request)).map .hook ++
          .handler request :: resets, .error fault)

/-- A handler works alike under any pipeline, and leaves the pipeline alone. -/
theorem handle_withPipeline (e : Emulator σ) (p : Pipeline) (i : Instance σ) (h : Handler σ)
    (request : ServiceRequest) :
    ({ e with pipeline := p } : Emulator σ).handle i h request =
      ({ (e.handle i h request).1 with pipeline := p }, (e.handle i h request).2) := by
  cases h with
  | own run => rfl
  | management action => cases action <;> rfl

/-- All that a handler does and can be seen from outside is running reset hooks. -/
theorem handle_quiet (e : Emulator σ) (i : Instance σ) (h : Handler σ)
    (request : ServiceRequest) : ∀ event ∈ (e.handle i h request).2.1, event.isReset := by
  cases h with
  | own run => simp [handle]
  | management action => cases action <;> simp [handle, manage, reset, Event.isReset]

/-- A handler that acts on the state of an instance runs on it. -/
theorem ranOn_handle (e : Emulator σ) (i : Instance σ)
    (act : σ → ServiceRequest → σ × HandlerResult) (request : ServiceRequest) :
    e.RanOn (e.handle i (.own act) request).1 i act request
      (e.handle i (.own act) request).2.1 (e.handle i (.own act) request).2.2 where
  result := rfl
  events := rfl
  instances := by
    have hinstances : (e.handle i (.own act) request).1.registry.instances =
        e.registry.instances.map fun j =>
          if j.id == i.id then { j with state := (act i.state request).1 } else j := rfl
    rw [hinstances, List.forall₂_map_right_iff, List.forall₂_same]
    intro j _
    simp only [beq_iff_eq]
  rest := rfl

/-- Finishing a response runs the response hooks on it, and states the length of what
they leave if a handler ran. -/
theorem finish_eq (e : Emulator σ) (events : List Event) (request : ServiceRequest)
    (handled : Bool) (s : Response) :
    ∃ e', e.finish events request handled s =
        (e', events ++ (responseCalls s (e.selected request)).map .hook,
          .ok (if handled then (rewritten s (e.selected request)).withContentLength
            else rewritten s (e.selected request))) ∧
      e.Hooked request (afterResponse s (e.selected request)) e' ∧
      e'.registry = e.registry := by
  obtain ⟨hcalls, hresult, hrestated⟩ := e.pipeline.runResponse_eq request s
  refine ⟨(e.finish events request handled s).1, ?_, ?_, rfl⟩
  · unfold finish
    simp only [hcalls, hresult]
    rfl
  · exact hrestated

/-- Answering a request whose request hooks are silent. The emulator is the one that
the request hooks left; the schedule is told from the one before them. -/
theorem answerUnhooked_scheduled {e : Emulator σ} {p : Pipeline} {i : Instance σ}
    {request : ServiceRequest} (route : Option (Route (Handler σ)))
    (silent : firstAnswer? request (e.selected request) = none)
    (hooked : Pipeline.Restated request e.pipeline.entries
      (afterRequest request (e.selected request)) p.entries) :
    Scheduled e i route request
      (({ e with pipeline := p } : Emulator σ).answerUnhooked
        ((requestCalls request (e.selected request)).map .hook) i route request) := by
  have hselected : p.selected request = afterRequest request (e.selected request) :=
    hooked.selected
  cases route with
  | none =>
    obtain ⟨e', hfinish, hhooked, hregistry⟩ := finish_eq { e with pipeline := p }
      ((requestCalls request (e.selected request)).map .hook) request false .notImplemented
    rw [answerUnhooked, hfinish]
    exact .unrouted silent rfl hselected (hooked.trans hhooked) hregistry
  | some matched =>
    rcases hrun : e.handle i matched.handler request with ⟨e₁, resets, result⟩
    have hquiet := handle_quiet e i matched.handler request
    rw [hrun] at hquiet
    have hran (act) (hown : matched.handler = .own act) :
        e.RanOn e₁ i act request resets result := by
      have hran := e.ranOn_handle i act request
      rwa [← hown, hrun] at hran
    have hhandle := handle_withPipeline e p i matched.handler request
    rw [hrun] at hhandle
    simp only [answerUnhooked, hhandle]
    have hfinish := fun s : Response => finish_eq { e₁ with pipeline := p }
      ((requestCalls request (e.selected request)).map .hook ++ .handler request :: resets)
      request true s.withContentLength
    cases result with
    | answer s =>
      obtain ⟨e', hfinished, hhooked, hregistry⟩ := hfinish s
      simp only [hfinished]
      exact .handled silent rfl hrun hquiet rfl hselected (hooked.trans hhooked) hregistry hran
    | domain failure =>
      obtain ⟨e', hfinished, hhooked, hregistry⟩ := hfinish failure.toResponse
      simp only [hfinished]
      exact .handled silent rfl hrun hquiet rfl hselected (hooked.trans hhooked) hregistry hran
    | fatal message =>
      exact .failed silent rfl hrun hquiet (.inl ⟨message, rfl, rfl⟩) hooked rfl hran
    | panic => exact .failed silent rfl hrun hquiet (.inr ⟨rfl, rfl⟩) hooked rfl hran

/-- Answering a request follows the schedule. -/
theorem answer_scheduled (e : Emulator σ) (i : Instance σ) (route : Option (Route (Handler σ)))
    (request : ServiceRequest) :
    Scheduled e i route request (e.answer i route request) := by
  obtain ⟨hcalls, hfirst, hrestated⟩ := e.pipeline.runRequest_eq request
  rcases hrun : e.pipeline.runRequest request with ⟨p, calls, short⟩
  simp only [hrun] at hcalls hfirst hrestated
  subst hcalls
  cases short with
  | none =>
    simp only [answer, hrun]
    exact answerUnhooked_scheduled route hfirst.symm hrestated
  | some first =>
    simp only [answer, hrun]
    exact .answered hfirst.symm hrestated rfl

/-- A dispatch that admits its request follows the schedule. -/
theorem Admits.scheduled {e : Emulator σ} {r : IncomingRequest} {a : Admission σ}
    (h : e.Admits r a) :
    Scheduled { e with registry := a.registry } a.target (a.route r) (a.request e r)
      (e.dispatch r) := by
  rw [dispatch_of_admits h]
  exact answer_scheduled { e with registry := a.registry } a.target (a.route r) (a.request e r)

/-- **The schedule of a dispatch.** A request with UTF-8 headers for a registered service
that can be constructed runs the request hooks of the extensions that select it up to
the first answer; without one, the handler of the first matching route exactly once;
and, unless that one gave no response, all response hooks in order. Extensions whose
hooks are not called keep their states. -/
theorem dispatch_scheduled {e : Emulator σ} {r : IncomingRequest} {g : Registration σ}
    (hheaders : ∀ header ∈ r.headers, (Utf8.decode? header.2).isSome)
    (hclassified : e.index.classify? r.url = some g.name)
    (hregistered : e.registry.get? g.name = some g)
    (hconstructible :
      e.registry.Constructible g e.config.account g.descriptor.scope.preferred) :
    ∃ a, e.Admits r a ∧ a.registration = g ∧
      Scheduled { e with registry := a.registry } a.target (a.route r) (a.request e r)
        (e.dispatch r) := by
  obtain ⟨a, hadmits, hregistration⟩ :=
    exists_admits hheaders hclassified hregistered hconstructible
  exact ⟨a, hadmits, hregistration, hadmits.scheduled⟩

section Runs

variable {e : Emulator Stub.State}

/-- A service whose factory gives an instance, by evaluation. -/
theorem exists_constructible (service : String)
    (h : (e.registry.get? service).any (fun g =>
      (g.descriptor.factory (g.attempts + 1) g.descriptor.scope.preferred
        e.config.account).toOption.isSome) = true) :
    ∃ g, g.name = service ∧ e.registry.get? service = some g ∧
      e.registry.Constructible g e.config.account g.descriptor.scope.preferred := by
  obtain ⟨g, hg, hgiven⟩ := (Option.any_eq_true _ _).mp h
  refine ⟨g, Registry.name_of_get? hg, hg, .inr ?_⟩
  cases hcall : g.descriptor.factory (g.attempts + 1) g.descriptor.scope.preferred
      e.config.account with
  | error source => simp [hcall, Except.toOption] at hgiven
  | ok backend => exact ⟨backend, rfl⟩

/-- Two extensions, of which the second answers. -/
private def twoExtensions : Emulator Stub.State :=
  Ping.emulator (.reply { status := 200 })
    [Ping.observer "quiet" (fun _ => none) (fun _ => none),
      Ping.observer "loud" (fun _ => some { status := 201 }) fun _ => none]

/-- One extension that does not answer, and a service that keeps what it is sent. -/
private def keeping : Emulator Stub.State :=
  Ping.emulator .push [Ping.observer "quiet" (fun _ => none) (fun _ => none)]

/-- A request with something to keep. -/
private def sent : IncomingRequest :=
  { Ping.request with body := Utf8.encode "note" }

/-- The schedule of a dispatch that the second of two extensions answers, and of one that comes
to a handler. -/
theorem dispatch_scheduled_twoExtensions :
    (∃ a, twoExtensions.Admits Ping.request a ∧ a.registration.name = "svc1" ∧
      Scheduled { twoExtensions with registry := a.registry } a.target (a.route Ping.request)
        (a.request twoExtensions Ping.request) (twoExtensions.dispatch Ping.request)) ∧
    ∃ a, keeping.Admits sent a ∧ a.registration.name = "svc1" ∧
      Scheduled { keeping with registry := a.registry } a.target (a.route sent)
        (a.request keeping sent) (keeping.dispatch sent) ∧
      (keeping.dispatch sent).1.registry.instances.map (·.state) = [some ["note"]] ∧
      (keeping.dispatch sent).2.2.toOption.map (·.status) = some 201 := by
  constructor
  · obtain ⟨g, hname, hregistered, hconstructible⟩ :=
      exists_constructible (e := twoExtensions) "svc1" (by cbv)
    have hclassified : twoExtensions.index.classify? Ping.request.url = some g.name := by
      rw [hname]
      cbv
    rw [← hname] at hregistered
    obtain ⟨a, hadmits, rfl, hscheduled⟩ := dispatch_scheduled (by simp [Ping.request])
      hclassified hregistered hconstructible
    exact ⟨a, hadmits, hname, hscheduled⟩
  · obtain ⟨g, hname, hregistered, hconstructible⟩ :=
      exists_constructible (e := keeping) "svc1" (by cbv)
    have hclassified : keeping.index.classify? sent.url = some g.name := by
      rw [hname]
      cbv
    rw [← hname] at hregistered
    obtain ⟨a, hadmits, rfl, hscheduled⟩ := dispatch_scheduled (by simp [sent, Ping.request])
      hclassified hregistered hconstructible
    have hstates : (keeping.dispatch sent).1.registry.instances.map (·.state) =
        [some ["note"]] := by cbv
    have hstatus : (keeping.dispatch sent).2.2.toOption.map (·.status) = some 201 := by cbv
    exact ⟨a, hadmits, hname, hscheduled, hstates, hstatus⟩

end Runs

end Emulator

end CloudEmulator
