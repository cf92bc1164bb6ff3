import CloudEmulator.Proofs.Backend.Access
import CloudEmulator.Proofs.Emulator.Schedule
import CloudEmulator.Proofs.Http.HeaderInsertion

/-!
# Failures of a dispatch

A dispatch fails for a header, for a construction, or for a handler, and for nothing
else. A URL that leads to no service or to no route is answered, not failed.
-/

namespace CloudEmulator

open Extension (firstAnswer? rewritten)

namespace Emulator

variable {σ : Type} {e : Emulator σ} {r : IncomingRequest} {a : Admission σ}

/-- Why a dispatch fails. -/
inductive Fails (e : Emulator σ) (r : IncomingRequest) : DispatchError → Prop where
  /-- A header is not UTF-8; the first such one is named. -/
  | invalidHeader {front rest : List (String × Bytes)} {name : String} {value : Bytes}
      (split : r.headers = front ++ (name, value) :: rest)
      (valid : ∀ header ∈ front, (Utf8.decode? header.2).isSome)
      (invalid : Utf8.decode? value = none) : Fails e r (.invalidHeader name)
  /-- The registered service that the URL belongs to has no instance yet, and its
  factory fails. -/
  | construction {headers : Headers} {g : Registration σ} {source : ConstructionFault}
      (decoded : Headers.ofRaw r.headers = .ok headers)
      (classified : e.index.classify? r.url = some g.name)
      (registered : e.registry.get? g.name = some g)
      (absent : e.registry.find? g e.config.account g.descriptor.scope.preferred = none)
      (call : g.descriptor.factory (g.attempts + 1) g.descriptor.scope.preferred
        e.config.account = .error source) :
      Fails e r (.backend
        (.construction g.name e.config.account g.descriptor.scope.preferred source))
  /-- The handler of the route fails fatally, where no request hook answers. -/
  | handler {a : Admission σ} {message : String} (handles : e.Handles r a (.fatal message)) :
      Fails e r (.handler a.registration.name (a.request e r).operation message)

/-- What a dispatch promises about its failures, and about the requests for which
nothing is implemented. -/
structure FailureLaws (e : Emulator σ) (r : IncomingRequest) : Prop where
  /-- A dispatch fails for the three reasons only, and always for them. -/
  fails : ∀ fault, (e.dispatch r).2.2 = .error fault ↔ e.Fails r fault
  /-- No service is unknown to a dispatch. -/
  known_service : ∀ service, (e.dispatch r).2.2 ≠ .error (.backend (.unknownService service))
  /-- No region is unknown to a dispatch. -/
  known_region : ∀ service region,
    (e.dispatch r).2.2 ≠ .error (.backend (.unknownRegion service region))
  /-- No hook makes a dispatch fail: with no extensions at all, it fails likewise. -/
  hookless : ∀ fault, (e.dispatch r).2.2 = .error fault →
    (({ e with pipeline := {} } : Emulator σ).dispatch r).2.2 = .error fault
  /-- Without a registered service, nothing is implemented, and nothing happens. -/
  unserved : ∀ headers, Headers.ofRaw r.headers = .ok headers →
    (∀ service, e.index.classify? r.url = some service →
      e.registry.contains service = false) →
    e.dispatch r = (e, [], .ok ⟨404, {}, Utf8.encode "Not yet implemented"⟩)
  /-- Without a route and an answer of a hook, the response hooks get to see that nothing
  is implemented. -/
  unrouted : ∀ a, e.Admits r a → a.route r = none →
    firstAnswer? (a.request e r) (e.selected (a.request e r)) = none →
    (e.dispatch r).2.2 = .ok (rewritten ⟨404, {}, Utf8.encode "Not yet implemented"⟩
      ((e.selected (a.request e r)).map (·.asked (a.request e r))))

/-- A fatal failure of the handler is the failure of the dispatch. -/
theorem Handles.dispatch_fatal {message : String} (h : e.Handles r a (.fatal message)) :
    (e.dispatch r).2.2 =
      .error (.handler a.registration.name (a.request e r).operation message) := by
  obtain ⟨hadmits, hsilent, matched, hroute, hresult⟩ := h
  have hscheduled := hadmits.scheduled
  generalize e.dispatch r = dispatched at hscheduled ⊢
  cases hscheduled with
  | answered first => cases first.symm.trans hsilent
  | unrouted silent missing => cases missing.symm.trans hroute
  | handled silent found run quiet given =>
    cases found.symm.trans hroute
    rw [run] at hresult
    cases hresult
    cases given
  | failed silent found run quiet given =>
    cases found.symm.trans hroute
    rw [run] at hresult
    cases hresult
    rcases given with ⟨message', hmessage, rfl⟩ | ⟨hpanic, -⟩
    · cases hmessage
      rfl
    · cases hpanic

/-- An admitted dispatch fails only where its handler does. -/
theorem Admits.fails (h : e.Admits r a) (hcalm : ¬ e.Handles r a .panic)
    {fault : DispatchError} (hfault : (e.dispatch r).2.2 = .error fault) : e.Fails r fault := by
  have hscheduled := h.scheduled
  generalize e.dispatch r = dispatched at hscheduled hfault
  cases hscheduled with
  | answered => cases hfault
  | unrouted => cases hfault
  | handled => cases hfault
  | failed silent found run quiet given =>
    cases hfault
    rcases given with ⟨message, rfl, rfl⟩ | ⟨rfl, rfl⟩
    · exact .handler ⟨h, silent, _, found, by rw [run]⟩
    · exact absurd ⟨h, silent, _, found, by rw [run]⟩ hcalm

/-- A dispatch fails wherever there is a reason to. -/
theorem Fails.dispatch {fault : DispatchError} (h : e.Fails r fault) :
    (e.dispatch r).2.2 = .error fault := by
  cases h with
  | invalidHeader split valid invalid =>
    have hheaders := Headers.ofRaw_eq_error_iff.mpr ⟨_, _, _, split, valid, invalid⟩
    rw [dispatch_of_invalid hheaders]
  | construction decoded classified registered absent call =>
    have hservice := served_iff.mpr ⟨classified, registered⟩
    have hinstance := Registry.instanceOf_preferred_eq_error_iff.mpr
      ⟨_, absent, call, rfl, rfl⟩
    rw [dispatch_of_fault decoded hservice hinstance]
  | handler handles => exact handles.dispatch_fatal

/-- There is a reason wherever a dispatch fails, unless a handler was torn down. -/
theorem fails_of_dispatch (hcalm : ∀ a, ¬ e.Handles r a .panic) {fault : DispatchError}
    (hfault : (e.dispatch r).2.2 = .error fault) : e.Fails r fault := by
  rcases e.stopped_or_admitted r with ⟨name, hheaders⟩ | ⟨headers, hheaders, hservice⟩ |
    ⟨headers, g, next, error, hheaders, hservice, hinstance⟩ | ⟨a, hadmits⟩
  · rw [dispatch_of_invalid hheaders] at hfault
    cases hfault
    obtain ⟨front, value, rest, hsplit, hvalid, hinvalid⟩ :=
      Headers.ofRaw_eq_error_iff.mp hheaders
    exact .invalidHeader hsplit hvalid hinvalid
  · rw [dispatch_of_unserved hheaders hservice] at hfault
    cases hfault
  · rw [dispatch_of_fault hheaders hservice hinstance] at hfault
    cases hfault
    obtain ⟨source, habsent, hcall, rfl, rfl⟩ :=
      Registry.instanceOf_preferred_eq_error_iff.mp hinstance
    obtain ⟨hclassified, hregistered⟩ := served_iff.mp hservice
    exact .construction hheaders hclassified hregistered habsent hcall
  · exact hadmits.fails (hcalm a) hfault

/-- The extensions are no part of what a handler is reached for. -/
theorem Handles.hookless {result : HandlerResult} (h : e.Handles r a result) :
    ({ e with pipeline := {} } : Emulator σ).Handles r a result := by
  obtain ⟨⟨hheaders, hclassified, hregistered, hinstanced⟩, -, matched, hroute, hresult⟩ := h
  refine ⟨⟨hheaders, hclassified, hregistered, hinstanced⟩, ?_, matched, hroute, ?_⟩
  · rw [selected, Pipeline.selected, Pipeline.selectedIn]
    rfl
  · have hhandle := handle_withPipeline { e with registry := a.registry } {} a.target
      matched.handler (a.request e r)
    rw [← hresult]
    exact congrArg (fun handled => handled.2.2) hhandle

/-- Without the extensions, a dispatch has the same reasons to fail. -/
theorem Fails.hookless {fault : DispatchError} (h : e.Fails r fault) :
    ({ e with pipeline := {} } : Emulator σ).Fails r fault := by
  cases h with
  | invalidHeader split valid invalid => exact .invalidHeader split valid invalid
  | construction decoded classified registered absent call =>
    exact .construction decoded classified registered absent call
  | handler handles => exact .handler handles.hookless

/-- An admitted dispatch without a route and an answer of a hook gives what the response
hooks leave of the response that nothing is implemented. -/
theorem Admits.dispatch_unrouted (h : e.Admits r a) (hroute : a.route r = none)
    (hsilent : firstAnswer? (a.request e r) (e.selected (a.request e r)) = none) :
    (e.dispatch r).2.2 = .ok (rewritten .notImplemented
      ((e.selected (a.request e r)).map (·.asked (a.request e r)))) := by
  have hscheduled := h.scheduled
  generalize e.dispatch r = dispatched at hscheduled ⊢
  cases hscheduled with
  | answered first => cases first.symm.trans hsilent
  | unrouted silent missing after =>
    rw [after, ← Extension.afterRequest_eq_map hsilent]
    rfl
  | handled silent found => cases found.symm.trans hroute
  | failed silent found => cases found.symm.trans hroute

/-- The handler that a request comes to is torn down. Hooks are left out of account. -/
def tearsDown (e : Emulator σ) (r : IncomingRequest) : Bool :=
  (e.admission? r).any fun a => (a.route r).any fun matched =>
    (({ e with registry := a.registry } : Emulator σ).handle a.target matched.handler
      (a.request e r)).2.2 matches .panic

/-- Where evaluation finds no handler that is torn down, there is none. -/
theorem not_handles_panic (h : e.tearsDown r = false) (a : Admission σ) :
    ¬ e.Handles r a .panic := by
  rintro ⟨hadmits, -, matched, hroute, hpanic⟩
  have htorn : e.tearsDown r = true := by
    rw [tearsDown, admission?_eq_some_iff.mpr hadmits]
    simp [hroute, hpanic]
  rw [h] at htorn
  cases htorn

/-- **Dispatch fails for three reasons.** Where no handler is torn down, a dispatch fails
exactly for a header that is not UTF-8, for a construction that fails, and for a fatal
failure of the handler; no extension makes it fail, and what leads nowhere is answered. -/
theorem failureLaws (hcalm : ∀ a, ¬ e.Handles r a .panic) : FailureLaws e r where
  fails := fun fault => ⟨fails_of_dispatch hcalm, Fails.dispatch⟩
  known_service := by
    intro service hfault
    cases fails_of_dispatch hcalm hfault
  known_region := by
    intro service region hfault
    cases fails_of_dispatch hcalm hfault
  hookless := fun fault hfault => (fails_of_dispatch hcalm hfault).hookless.dispatch
  unserved := by
    intro headers hheaders hunknown
    refine dispatch_of_unserved hheaders ?_
    cases hservice : e.index.classify? r.url with
    | none => rfl
    | some service => simpa [Registry.contains] using hunknown service hservice
  unrouted := fun a hadmits hroute hsilent => hadmits.dispatch_unrouted hroute hsilent

/-- An emulator whose only handler fails, and whose extension answers nothing. -/
def failing : Emulator Stub.State :=
  Ping.emulator (.fatal "boom")
    [Ping.observer "quiet" (fun _ => none) fun _ => some { status := 201 }]

/-- A failing handler is the reason of a failing dispatch. -/
theorem failureLaws_failing :
    (∀ a, ¬ failing.Handles Ping.request a .panic) ∧ FailureLaws failing Ping.request ∧
      failing.Fails Ping.request (.handler "svc1" (some "Ping") "boom") := by
  have hcalm := not_handles_panic (e := failing) (r := Ping.request) (by cbv)
  have hlaws := failureLaws hcalm
  have hfault : (failing.dispatch Ping.request).2.2 =
      .error (.handler "svc1" (some "Ping") "boom") := by cbv
  exact ⟨hcalm, hlaws, (hlaws.fails _).mp hfault⟩

end Emulator

end CloudEmulator
