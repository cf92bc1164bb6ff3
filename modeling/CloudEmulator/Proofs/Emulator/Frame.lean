import CloudEmulator.Proofs.Backend.Lookup
import CloudEmulator.Proofs.Emulator.Renewal
import CloudEmulator.Proofs.Extension.ExecutionOrder

/-!
# What a dispatch leaves alone

A dispatch can construct one instance, change the state of one, and move the states of
extensions on. All else is as it was before, whichever way the dispatch ends. Only the
handler that resets all backends changes more than one instance.
-/

namespace CloudEmulator

variable {σ : Type}

/-- The key under which an admitted request gets its instance. -/
def Admission.key (a : Admission σ) (account : String) : BackendKey :=
  ⟨a.registration.name, account, a.region⟩

namespace Emulator

variable {e next last : Emulator σ} {r : IncomingRequest} {a : Admission σ} {g : Registration σ}

/-- The registry in which an admitted request finds its instance is one access away. -/
theorem Admits.accessed (h : e.Admits r a) :
    Registry.Accessed e.registry a.registration e.config.account a.region
      (a.registry, .ok a.target) :=
  Registry.accessed_of_eq h.instanced

/-- What no request changes: the settings, the switch, the index, the reset hooks, the
services, and the list of extensions. -/
structure Kept (e next : Emulator σ) : Prop where
  config : next.config = e.config
  index : next.index = e.index
  resetHooks : next.resetHooks = e.resetHooks
  intercepting : next.intercepting = e.intercepting
  services : Registry.SameServices e.registry next.registry
  /-- All but the states of scripts, in the same order. -/
  extensions : next.pipeline.entries.map Registered.stateless =
    e.pipeline.entries.map Registered.stateless
  nextSeq : next.pipeline.nextSeq = e.pipeline.nextSeq

namespace Kept

/-- An emulator is kept by what does nothing. -/
theorem refl (e : Emulator σ) : e.Kept e :=
  ⟨rfl, rfl, rfl, rfl, .refl e.registry, rfl, rfl⟩

/-- What is kept first and kept afterwards is kept. -/
theorem trans (h : e.Kept next) (h' : next.Kept last) : e.Kept last where
  config := h'.config.trans h.config
  index := h'.index.trans h.index
  resetHooks := h'.resetHooks.trans h.resetHooks
  intercepting := h'.intercepting.trans h.intercepting
  services := h.services.trans h'.services
  extensions := h'.extensions.trans h.extensions
  nextSeq := h'.nextSeq.trans h.nextSeq

/-- Counting changes nothing else. -/
theorem counted (h : e.Kept next) (counters : Counters) : e.Kept { next with counters } :=
  ⟨h.config, h.index, h.resetHooks, h.intercepting, h.services, h.extensions, h.nextSeq⟩

/-- The registry may be replaced by one with the same services. -/
theorem withRegistry (e : Emulator σ) {registry : Registry σ}
    (h : Registry.SameServices e.registry registry) : e.Kept { e with registry } :=
  ⟨rfl, rfl, rfl, rfl, h, rfl, rfl⟩

/-- The request hooks of the pipeline keep the list of extensions. -/
theorem runRequest (e : Emulator σ) (request : ServiceRequest) :
    e.Kept { e with pipeline := (e.pipeline.runRequest request).1 } := by
  obtain ⟨-, -, hrestated⟩ := e.pipeline.runRequest_eq request
  have hseq := e.pipeline.nextSeq_runRequest request
  exact ⟨rfl, rfl, rfl, rfl, .refl e.registry, hrestated.stateless, hseq⟩

/-- A finished response has passed the response hooks, which keep the list of extensions. -/
theorem finish (e : Emulator σ) (events : List Event) (request : ServiceRequest)
    (handled : Bool) (s : Response) : e.Kept (e.finish events request handled s).1 := by
  obtain ⟨-, -, hrestated⟩ := e.pipeline.runResponse_eq request s
  have hseq := e.pipeline.nextSeq_runResponse request s
  exact ⟨rfl, rfl, rfl, rfl, .refl e.registry, hrestated.stateless, hseq⟩

/-- No handler registers anything. -/
theorem handle (e : Emulator σ) (i : Instance σ) (h : Handler σ) (request : ServiceRequest) :
    e.Kept (e.handle i h request).1 := by
  cases h with
  | own run => exact withRegistry e (.mapInstances e.registry _)
  | management action =>
    cases action with
    | reset => exact withRegistry e (.mapInstances e.registry _)
    | health => exact refl e
    | listBackends => exact refl e
    | metrics => exact refl e

/-- An answer without an extension registers nothing. -/
theorem answerUnhooked (e : Emulator σ) (events : List Event) (i : Instance σ)
    (route : Option (Route (Handler σ))) (request : ServiceRequest) :
    e.Kept (e.answerUnhooked events i route request).1 := by
  cases route with
  | none => exact finish e events request false .notImplemented
  | some matched =>
    have hhandle := handle e i matched.handler request
    rcases hrun : e.handle i matched.handler request with ⟨next, handled, result⟩
    rw [hrun] at hhandle
    simp only [Emulator.answerUnhooked, hrun]
    cases result with
    | answer s => exact hhandle.trans (finish next _ request true _)
    | domain failure => exact hhandle.trans (finish next _ request true _)
    | fatal message => exact hhandle.counted _
    | panic => exact hhandle

/-- An answer registers nothing. -/
theorem answer (e : Emulator σ) (i : Instance σ) (route : Option (Route (Handler σ)))
    (request : ServiceRequest) : e.Kept (e.answer i route request).1 := by
  have hhooks := runRequest e request
  rcases hrun : e.pipeline.runRequest request with ⟨pipeline, calls, short⟩
  rw [hrun] at hhooks
  simp only [Emulator.answer, hrun]
  cases short with
  | none => exact hhooks.trans (answerUnhooked _ _ i route request)
  | some first => exact hhooks.counted _

/-- A dispatch registers nothing. -/
theorem dispatch (e : Emulator σ) (r : IncomingRequest) : e.Kept (e.dispatch r).1 := by
  rcases e.stopped_or_admitted r with ⟨name, hheaders⟩ | ⟨headers, hheaders, hservice⟩ |
    ⟨headers, g, registry, fault, hheaders, hservice, hinstance⟩ | ⟨a, hadmits⟩
  · rw [dispatch_of_invalid hheaders]
    exact refl e
  · rw [dispatch_of_unserved hheaders hservice]
    exact refl e
  · have haccessed := Registry.accessed_of_eq hinstance
    rw [dispatch_of_fault hheaders hservice hinstance]
    exact withRegistry e (.accessed haccessed)
  · have hinstanced := withRegistry e (.accessed hadmits.accessed)
    rw [dispatch_of_admits hadmits]
    exact hinstanced.trans (answer _ a.target (a.route r) (a.request e r))

/-- A run of dispatches registers nothing. -/
theorem served (e : Emulator σ) (rs : List IncomingRequest) : e.Kept (e.served rs) := by
  induction rs generalizing e with
  | nil => exact refl e
  | cons r rs ih => exact (dispatch e r).trans (ih (e.dispatch r).1)

end Kept

/-- The request is for a registered service: its headers are UTF-8, and its URL belongs to
the service. -/
structure Addresses (e : Emulator σ) (r : IncomingRequest) (g : Registration σ) : Prop where
  headers : ∀ header ∈ r.headers, (Utf8.decode? header.2).isSome
  classified : e.index.classify? r.url = some g.name
  registered : e.registry.get? g.name = some g

/-- The instance that a request for the service gets: by its registration, the configured
account, and the preferred region. -/
def targetKey (e : Emulator σ) (g : Registration σ) : Nat × String × String :=
  (g.number, e.config.account, g.descriptor.scope.preferred)

/-- The dispatch of the request runs the handler that resets all backends: no request hook
answers in its place. -/
def Resets (e : Emulator σ) (r : IncomingRequest) : Prop :=
  ∃ a matched, e.Admits r a ∧
    Extension.firstAnswer? (a.request e r) (e.selected (a.request e r)) = none ∧
    a.route r = some matched ∧ matched.handler = .management .reset

/-- A dispatch that resets all backends comes to that endpoint. -/
theorem Resets.endpoint? (h : e.Resets r) : e.endpoint? r = some .reset := by
  obtain ⟨a, matched, hadmits, -, hroute, hhandler⟩ := h
  rw [Emulator.endpoint?, admission?_eq_some_iff.mpr hadmits, Option.bind_some, hroute,
    Option.bind_some, hhandler]
  rfl

/-- What a dispatch leaves of the registry. -/
inductive Leaves (e : Emulator σ) (r : IncomingRequest) : Registry σ → Prop where
  /-- The request is for no registered service. -/
  | stopped (unaddressed : ∀ g, ¬ e.Addresses r g) : Leaves e r e.registry
  /-- The service gives no instance. -/
  | failed {g : Registration σ} {registry : Registry σ} {fault : RegistryError}
      (addressed : e.Addresses r g) (unadmitted : ∀ a, ¬ e.Admits r a)
      (access : e.registry.instanceOf g e.config.account g.descriptor.scope.preferred =
        (registry, .error fault)) : Leaves e r registry
  /-- No handler changes an instance. -/
  | admitted {a : Admission σ} (admits : e.Admits r a) : Leaves e r a.registry
  /-- A handler works on the instance. -/
  | moved {a : Admission σ} (admits : e.Admits r a) (state : σ) :
      Leaves e r (a.registry.setState a.target.id state)
  /-- The handler resets all backends. -/
  | reset {a : Admission σ} (admits : e.Admits r a) (resets : e.Resets r) :
      Leaves e r a.registry.resetAll.1

/-- An admitted request is for the service whose instance it gets. -/
theorem Admits.addresses (h : e.Admits r a) : e.Addresses r a.registration :=
  ⟨fun _ hmem => Headers.isSome_decode?_of_ofRaw h.headers hmem, h.classified, h.registered⟩

/-- A request is for one service at most. -/
theorem Addresses.unique {g' : Registration σ} (h : e.Addresses r g) (h' : e.Addresses r g') :
    g = g' := by
  have hname : g.name = g'.name := Option.some.inj (h.classified.symm.trans h'.classified)
  have hsame := h'.registered
  rw [← hname, h.registered] at hsame
  exact Option.some.inj hsame

/-- A request gets one instance at most. -/
theorem Admits.unique {b : Admission σ} (h : e.Admits r a) (h' : e.Admits r b) : a = b := by
  have hsame := admission?_eq_some_iff.mpr h
  rw [admission?_eq_some_iff.mpr h'] at hsame
  exact (Option.some.inj hsame).symm

/-- A handler leaves of the registry what a dispatch may leave. -/
theorem Admits.leaves_handle {matched : Route (Handler σ)} (h : e.Admits r a)
    (hsilent : Extension.firstAnswer? (a.request e r) (e.selected (a.request e r)) = none)
    (hroute : a.route r = some matched) :
    e.Leaves r (({ e with registry := a.registry } : Emulator σ).handle a.target matched.handler
      (a.request e r)).1.registry := by
  cases hhandler : matched.handler with
  | own run => exact .moved h (run a.target.state (a.request e r)).1
  | management action =>
    cases action with
    | reset => exact .reset h ⟨a, matched, h, hsilent, hroute, hhandler⟩
    | health => exact .admitted h
    | listBackends => exact .admitted h
    | metrics => exact .admitted h

/-- A dispatch leaves the registry in one of five ways, whichever way it ends. -/
theorem leaves_dispatch (e : Emulator σ) (r : IncomingRequest) :
    e.Leaves r (e.dispatch r).1.registry := by
  rcases e.stopped_or_admitted r with ⟨name, hheaders⟩ | ⟨headers, hheaders, hservice⟩ |
    ⟨headers, g, registry, fault, hheaders, hservice, hinstance⟩ | ⟨a, hadmits⟩
  · rw [dispatch_of_invalid hheaders]
    apply Leaves.stopped
    intro g haddresses
    obtain ⟨headers, hdecoded⟩ := Headers.exists_ofRaw_eq_ok haddresses.headers
    rw [hheaders] at hdecoded
    cases hdecoded
  · rw [dispatch_of_unserved hheaders hservice]
    apply Leaves.stopped
    intro g haddresses
    rw [served_iff.mpr ⟨haddresses.classified, haddresses.registered⟩] at hservice
    cases hservice
  · rw [dispatch_of_fault hheaders hservice hinstance]
    obtain ⟨hclassified, hregistered⟩ := served_iff.mp hservice
    have haddresses : e.Addresses r g :=
      ⟨fun _ hmem => Headers.isSome_decode?_of_ofRaw hheaders hmem, hclassified, hregistered⟩
    refine .failed haddresses ?_ hinstance
    intro a hadmits
    have hinstanced := hadmits.instanced
    rw [← haddresses.unique hadmits.addresses, Admission.region,
      ← haddresses.unique hadmits.addresses, hinstance] at hinstanced
    cases hinstanced
  · -- Hooks leave the registry alone, so what is left of it is what a handler leaves, if one runs.
    have hscheduled := hadmits.scheduled
    rcases hdispatch : e.dispatch r with ⟨next, events, outcome⟩
    rw [hdispatch] at hscheduled
    cases hscheduled with
    | answered first hooked untouched =>
      rw [untouched]
      exact .admitted hadmits
    | unrouted silent missing after hooked untouched =>
      rw [untouched]
      exact .admitted hadmits
    | handled silent found run quiet given after hooked registry =>
      have hleaves := hadmits.leaves_handle silent found
      rw [run] at hleaves
      rw [registry]
      exact hleaves
    | failed silent found run quiet given hooked registry =>
      have hleaves := hadmits.leaves_handle silent found
      rw [run] at hleaves
      rw [registry]
      exact hleaves

/-- The instance of an admitted request is kept in the registry. -/
theorem Admits.target_mem (h : e.Admits r a) :
    a.target ∈ a.registry.instances ∧ a.target.key = e.targetKey a.registration :=
  Registry.mem_of_find? (Registry.find?_of_instanceOf h.instanced rfl)

namespace Leaves

variable {registry : Registry σ}

/-- A consistent registry is left consistent. -/
theorem consistent (h : e.Leaves r registry) (hconsistent : e.registry.Consistent) :
    registry.Consistent := by
  cases h with
  | stopped unaddressed => exact hconsistent
  | failed addressed unadmitted access =>
    exact hconsistent.accessed (Registry.accessed_of_eq access)
  | admitted admits => exact hconsistent.accessed admits.accessed
  | moved admits state =>
    exact (hconsistent.accessed admits.accessed).mapInstances
      (Instance.assigned_asBuilt _ state)
  | reset admits resets =>
    rw [Registry.resetAll_eq]
    exact (hconsistent.accessed admits.accessed).mapInstances (Instance.resetAmong_asBuilt _)

/-- What is materialised then was materialised, or is the instance that the request gets. -/
theorem mem_materialized_iff (h : e.Leaves r registry) (hconsistent : e.registry.Consistent)
    {key : BackendKey} : key ∈ registry.materialized ↔
      key ∈ e.registry.materialized ∨ ∃ a, e.Admits r a ∧ key = a.key e.config.account := by
  have hnone (hunadmitted : ∀ a, ¬ e.Admits r a) :
      ¬ ∃ a, e.Admits r a ∧ key = a.key e.config.account := by
    rintro ⟨a, hadmits, -⟩
    exact hunadmitted a hadmits
  have hone {a : Admission σ} (hadmits : e.Admits r a) : key ∈ a.registry.materialized ↔
      key ∈ e.registry.materialized ∨ ∃ a, e.Admits r a ∧ key = a.key e.config.account := by
    have hkey : (∃ b, e.Admits r b ∧ key = b.key e.config.account) ↔
        key = a.key e.config.account := by
      constructor
      · rintro ⟨b, hb, hkey⟩
        rw [hkey, hadmits.unique hb]
      · intro hkey
        exact ⟨a, hadmits, hkey⟩
    rw [hkey]
    exact hconsistent.mem_materialized_instanceOf hadmits.registered hadmits.instanced
  cases h with
  | stopped unaddressed =>
    rw [or_iff_left (hnone fun a hadmits => unaddressed a.registration hadmits.addresses)]
  | failed addressed unadmitted access =>
    obtain ⟨source, -, -, rfl, -⟩ := Registry.instanceOf_preferred_eq_error_iff.mp access
    rw [Registry.materialized_countAttempt, or_iff_left (hnone unadmitted)]
  | admitted admits => exact hone admits
  | @moved a admits state =>
    have hsame : (a.registry.setState a.target.id state).materialized =
        a.registry.materialized :=
      Registry.materialized_mapInstances (Instance.assigned_asBuilt _ state)
    rw [hsame]
    exact hone admits
  | @reset a admits resets =>
    rw [Registry.resetAll_eq, Registry.materialized_mapInstances (Instance.resetAmong_asBuilt _)]
    exact hone admits

/-- Unless all backends are reset, an instance is found in the state in which it was, if it
is not the one that the request gets. -/
theorem find?_eq (h : e.Leaves r registry) (hconsistent : e.registry.Consistent)
    (hquiet : ¬ e.Resets r) {s : Registration σ} {account region : String}
    (hother : ∀ g, e.Addresses r g → (s.number, account, region) ≠ e.targetKey g) :
    registry.find? s account region = e.registry.find? s account region := by
  cases h with
  | stopped unaddressed => rfl
  | failed addressed unadmitted access =>
    obtain ⟨source, -, -, rfl, -⟩ := Registry.instanceOf_preferred_eq_error_iff.mp access
    rfl
  | admitted admits =>
    exact admits.accessed.agreesBut s account region (hother _ admits.addresses)
  | @moved a admits state =>
    obtain ⟨hmem, hkey⟩ := admits.target_mem
    have hset := (hconsistent.accessed admits.accessed).agreesBut_setState hmem state
    rw [hkey] at hset
    have hboth := admits.accessed.agreesBut.trans hset
    exact hboth s account region (hother a.registration admits.addresses)
  | reset admits resets => exact absurd resets hquiet

end Leaves

/-- A request with a header that is not UTF-8, or without a registered service for its URL,
changes nothing, and nothing happens. -/
theorem dispatch_of_unaddressed
    (h : (∃ header ∈ r.headers, Utf8.decode? header.2 = none) ∨
      ∀ service, e.index.classify? r.url = some service → e.registry.get? service = none) :
    (e.dispatch r).1 = e ∧ (e.dispatch r).2.1 = [] := by
  cases hheaders : Headers.ofRaw r.headers with
  | error name =>
    rw [dispatch_of_invalid hheaders]
    exact ⟨rfl, rfl⟩
  | ok headers =>
    rcases h with ⟨header, hmem, hbad⟩ | hunserved
    · have hgood := Headers.isSome_decode?_of_ofRaw hheaders hmem
      rw [hbad] at hgood
      cases hgood
    · rw [dispatch_of_unserved hheaders (Option.bind_eq_none_iff.mpr hunserved)]
      exact ⟨rfl, rfl⟩

/-- What a dispatch leaves as it was. -/
structure FrameLaws (e : Emulator σ) (r : IncomingRequest) : Prop where
  /-- The settings, the index, the services and the list of extensions are kept, even by a
  dispatch that resets all backends. -/
  kept : e.Kept (e.dispatch r).1
  consistent : (e.dispatch r).1.registry.Consistent
  /-- What is materialised stays so, and the key of the instance that the request gets is
  all that is added. -/
  materialized : ∀ key, key ∈ (e.dispatch r).1.registry.materialized ↔
    key ∈ e.registry.materialized ∨ ∃ a, e.Admits r a ∧ key = a.key e.config.account
  /-- It gets one at most, and only if all headers are UTF-8 and the URL belongs to a
  registered service. -/
  admitted : ∀ a, e.Admits r a →
    e.Addresses r a.registration ∧ ∀ b, e.Admits r b → b = a
  /-- Every other instance, of any registration, account and region, is found in the state in
  which it was, and none is found where there was none. -/
  others : ¬ e.Resets r → ∀ (s : Registration σ) (account region : String),
    (∀ g, e.Addresses r g → (s.number, account, region) ≠ e.targetKey g) →
      (e.dispatch r).1.registry.find? s account region = e.registry.find? s account region
  /-- With a header that is not UTF-8, a URL that belongs to no service, or a service that is
  not registered, the emulator is the same, and nothing happens. -/
  stopped : (∃ header ∈ r.headers, Utf8.decode? header.2 = none) ∨
      (∀ service, e.index.classify? r.url = some service → e.registry.get? service = none) →
    (e.dispatch r).1 = e ∧ (e.dispatch r).2.1 = []

/-- **The frame of a dispatch.** Whichever way it ends, by a hook, a handler, a failure or
before any of them, a dispatch constructs at most the instance that its request gets, and
changes the state of no other. -/
theorem frameLaws (h : e.registry.Consistent) (r : IncomingRequest) : FrameLaws e r where
  kept := .dispatch e r
  consistent := (e.leaves_dispatch r).consistent h
  materialized _ := (e.leaves_dispatch r).mem_materialized_iff h
  admitted _ hadmits := ⟨hadmits.addresses, fun _ hother => hother.unique hadmits⟩
  others hquiet _ _ _ := (e.leaves_dispatch r).find?_eq h hquiet
  stopped := dispatch_of_unaddressed

/-- A run of dispatches leaves a consistent registry consistent. -/
theorem consistent_served (h : e.registry.Consistent) (rs : List IncomingRequest) :
    (e.served rs).registry.Consistent := by
  induction rs generalizing e with
  | nil => exact h
  | cons r rs ih => exact ih ((e.leaves_dispatch r).consistent h)

/-- The emulator under other settings. -/
def configured (e : Emulator σ) (config : EmulatorConfig) : Emulator σ :=
  { e with config }

/-- The registry is kept under other settings. -/
@[simp] theorem registry_configured (e : Emulator σ) (config : EmulatorConfig) :
    (e.configured config).registry = e.registry := rfl

/-- A new emulator has a consistent registry. -/
theorem consistent_new [Inhabited σ] (config : EmulatorConfig) :
    (new config : Emulator σ).registry.Consistent := by
  obtain ⟨pattern, hnew, -⟩ := new_eq (σ := σ) config
  rw [hnew]
  exact Registry.consistent_empty.register _

/-- A registered service leaves a consistent registry consistent. -/
theorem consistent_registerService {d : ServiceDescriptor σ} (h : e.registry.Consistent)
    (hregister : e.registerService d = .ok next) : next.registry.Consistent := by
  obtain ⟨patterns, rfl⟩ := registerService_eq hregister
  exact h.register d

/-- The emulator of the notes after a request for another account. -/
def shared : Emulator Stub.State :=
  ((noting.configured { account := "222222222222" }).served [addNote]).configured {}

/-- Its registry is consistent. -/
theorem consistent_shared : shared.registry.Consistent := by
  have hnoting : noting.registry.Consistent := by
    unfold noting
    cases hregister : ((new {}).registerService notebook.descriptor).toOption with
    | none =>
      rw [Option.getD_none]
      exact consistent_new {}
    | some e =>
      rw [Option.getD_some]
      have hnext := Fallible.toOption_eq_some.mp hregister
      exact consistent_registerService (consistent_new {}) hnext
  rw [shared, registry_configured]
  apply consistent_served
  rw [registry_configured]
  exact hnoting

/-- The keys of the instances, and how many notes each holds. -/
def noteCounts (e : Emulator Stub.State) : List ((Nat × String × String) × Nat) :=
  e.registry.instances.map fun i => (i.key, (i.state.getD []).length)

/-- A note for the configured account constructs a second instance, which gets it. The first
is left as it is. -/
theorem frameLaws_shared :
    shared.registry.Consistent ∧ FrameLaws shared addNote ∧ ¬ shared.Resets addNote ∧
      shared.noteCounts = [((1, "222222222222", "global"), 1)] ∧
      (shared.dispatch addNote).1.noteCounts =
        [((1, "222222222222", "global"), 1), ((1, "123456789012", "global"), 1)] := by
  refine ⟨consistent_shared, frameLaws consistent_shared addNote, ?_, ?_, ?_⟩
  · intro hresets
    have hendpoint : shared.endpoint? addNote = none := by decide +kernel
    rw [hresets.endpoint?] at hendpoint
    cases hendpoint
  · decide +kernel
  · decide +kernel

/-- None of the requests, one after the other, resets all backends. -/
def NeverResets (e : Emulator σ) : List IncomingRequest → Prop
  | [] => True
  | r :: rs => ¬ e.Resets r ∧ (e.dispatch r).1.NeverResets rs

/-- No request of a run is for the instance: it is not that of a registered service for the
configured account and the preferred region. -/
def Aside (e : Emulator σ) (key : Nat × String × String) : Prop :=
  ∀ service g, e.registry.get? service = some g → key ≠ e.targetKey g

/-- What requests are for stays the same. -/
theorem Kept.aside {key : Nat × String × String} (h : e.Kept next) (haside : e.Aside key) :
    next.Aside key := by
  intro service t ht
  obtain ⟨g, hg, hmade⟩ := h.services.symm.exists_get? ht
  have htarget : next.targetKey t = e.targetKey g := by
    obtain ⟨hdescriptor, hnumber⟩ := Registration.of_asMade hmade
    rw [targetKey, targetKey, h.config, hnumber, hdescriptor]
  rw [htarget]
  exact haside service g hg

/-- A run of dispatches leaves every instance alone that no request is for. The induction is on
the requests: each keeps the services, and with them what later requests are for. -/
theorem find?_served (h : e.registry.Consistent) {rs : List IncomingRequest}
    (hquiet : e.NeverResets rs) {s : Registration σ} {account region : String}
    (haside : e.Aside (s.number, account, region)) :
    (e.served rs).registry.find? s account region = e.registry.find? s account region := by
  induction rs generalizing e with
  | nil => rfl
  | cons r rs ih =>
    obtain ⟨hfirst, hrest⟩ := hquiet
    have hleaves := e.leaves_dispatch r
    have hkept := Kept.dispatch e r
    calc (e.served (r :: rs)).registry.find? s account region
        = (e.dispatch r).1.registry.find? s account region :=
          ih (hleaves.consistent h) hrest (hkept.aside haside)
      _ = e.registry.find? s account region :=
          hleaves.find?_eq h hfirst fun g haddresses => haside g.name g haddresses.registered

end Emulator

end CloudEmulator
