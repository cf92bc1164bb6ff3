import CloudEmulator.Proofs.Emulator.Classification
import CloudEmulator.Proofs.Emulator.ListText
import CloudEmulator.Proofs.Http.HeaderReplacement
import CloudEmulator.Proofs.Routing.QueryIndependence

/-!
# The listing of instances over the wire

The management service answers the request for the list of instances with the keys that are
listed, its own among them. It does so in every history of an emulator in which no other service
takes its name.
-/

namespace CloudEmulator

open Extension (firstAnswer? rewritten afterRequest)

variable {σ : Type}

namespace Registry

variable {registry : Registry σ} {s : Registration σ} {account region : String}

/-- Every instance has a backend that the factory of its registration gave. -/
def Made (registry : Registry σ) : Prop :=
  ∀ o ∈ registry.objects, ∃ s calls, registry.registration? o.registration = some s ∧
    s.descriptor.factory calls o.region o.account = .ok o.backend

/-- Behind an access, an object was there before, or the factory has just given its backend. -/
theorem Accessed.mem_objects {outcome : Registry σ × Except RegistryError (Instance σ)}
    (h : Accessed registry s account region outcome) {o : Instance σ}
    (ho : o ∈ outcome.1.objects) : o ∈ registry.objects ∨ o.registration = s.number ∧
      s.descriptor.factory (s.attempts + 1) o.region o.account = .ok o.backend := by
  cases h with
  | refused _ => exact .inl ho
  | found _ _ => exact .inl ho
  | failed _ _ _ => exact .inl ho
  | built _ _ call new =>
    rw [Registry.objects, List.map_append] at ho
    rcases List.mem_append.mp ho with hold | hnew
    · exact .inl hold
    · obtain rfl := List.mem_singleton.mp hnew
      rw [new]
      exact .inr ⟨rfl, call⟩

/-- Every operation leaves instances with the backends that they were given. -/
theorem Consistent.made_after (h : Consistent registry) (hmade : registry.Made)
    (op : Operation σ) : (registry.after op).Made := by
  intro o ho
  have horigin : o ∈ registry.objects ∨ ∃ s, registry.registration? o.registration = some s ∧
      s.descriptor.factory (s.attempts + 1) o.region o.account = .ok o.backend := by
    have hperformed := registry.perform_performed op
    unfold Registry.after at ho
    generalize registry.perform op = outcome at hperformed ho
    cases hperformed with
    | registered descriptor => exact .inl ho
    | accessed known access =>
      refine (access.mem_objects ho).imp_right ?_
      rintro ⟨hnumber, hcall⟩
      have hsame := number_of_registration? known
      rw [hnumber, hsame]
      exact ⟨_, known, hcall⟩
    | touched instances objects _ _ _ =>
      rw [objects] at ho
      exact .inl ho
  have hbefore : ∃ s calls, registry.registration? o.registration = some s ∧
      s.descriptor.factory calls o.region o.account = .ok o.backend := by
    rcases horigin with hold | ⟨s, hs, hcall⟩
    · exact hmade o hold
    · exact ⟨s, _, hs, hcall⟩
  obtain ⟨s, calls, hs, hcall⟩ := hbefore
  obtain ⟨t, ht, hdescriptor⟩ := h.registration?_after hs op
  refine ⟨t, calls, ht, ?_⟩
  rw [hdescriptor]
  exact hcall

/-- So does every run. -/
theorem Consistent.made_run (h : Consistent registry) (hmade : registry.Made)
    (ops : List (Operation σ)) : (registry.run ops).Made := by
  induction ops generalizing registry with
  | nil => exact hmade
  | cons op ops ih => exact ih (h.after op) (h.made_after hmade op)

/-- The name of a service leads to the service, whenever it was registered. -/
def Provides (registry : Registry σ) (d : ServiceDescriptor σ) : Prop :=
  ∃ s, registry.get? d.name = some s ∧ s.descriptor = d

/-- A service that is registered now is provided. -/
theorem provides_register (registry : Registry σ) (d : ServiceDescriptor σ) :
    (registry.register d).Provides d :=
  ⟨⟨d, registry.registered, 0⟩,
    find?_place_self ⟨d, registry.registered, 0⟩ registry.registrations, rfl⟩

/-- An operation that registers no other service under the name leaves a service provided. -/
theorem Consistent.provides_after (h : Consistent registry) {d : ServiceDescriptor σ}
    (hprovides : registry.Provides d) {op : Operation σ}
    (hop : ∀ d', op = .register d' → d'.name = d.name → d' = d) :
    (registry.after op).Provides d := by
  by_cases hother : ∀ d', op = .register d' → d'.name ≠ d.name
  · obtain ⟨s, hget, hdescriptor⟩ := hprovides
    have hothers : ∀ d', .register d' ∈ [op] → d'.name ≠ d.name := by
      intro d' hd
      exact hother d' (List.mem_singleton.mp hd).symm
    obtain ⟨t, ht, -, hsame⟩ := h.exists_get?_run hget hothers
    exact ⟨t, ht, hsame.trans hdescriptor⟩
  · obtain ⟨d', rfl, hname⟩ : ∃ d', op = .register d' ∧ d'.name = d.name := by
      simpa using hother
    obtain rfl := hop d' rfl hname
    exact registry.provides_register d'

/-- So does a run. -/
theorem Consistent.provides_run (h : Consistent registry) {d : ServiceDescriptor σ}
    (hprovides : registry.Provides d) {ops : List (Operation σ)}
    (hops : ∀ d', .register d' ∈ ops → d'.name = d.name → d' = d) :
    (registry.run ops).Provides d := by
  induction ops generalizing registry with
  | nil => exact hprovides
  | cons op ops ih =>
    have hfirst : ∀ d', op = .register d' → d'.name = d.name → d' = d := by
      rintro d' rfl
      exact hops d' List.mem_cons_self
    apply ih (h.after op) (h.provides_after hprovides hfirst)
    intro d' hd
    exact hops d' (List.mem_cons_of_mem op hd)

end Registry

namespace Management

/-- The URLs of the list. -/
def listUrls : List String := [
  "http://motoapi.amazonaws.com/moto-api/backends",
  "http://motoapi.amazonaws.com/moto-api/backends/",
  "https://motoapi.amazonaws.com/moto-api/backends",
  "https://motoapi.amazonaws.com/moto-api/backends/"]

/-- The request asks for the list, with whatever behind the path. -/
structure AsksForList (r : IncomingRequest) : Prop where
  headers : ∀ header ∈ r.headers, (Utf8.decode? header.2).isSome
  method : Text.sameName (Text.upper "GET") r.method = true
  url : Url.stem r.url ∈ listUrls

/-- The URLs of the list are of the host of the service. -/
theorem AsksForList.hasOrigin {r : IncomingRequest} (h : AsksForList r) : HasOrigin r.url := by
  have hurls : ∀ url ∈ listUrls, HasOrigin url := by decide +kernel
  obtain ⟨rest, hurl, -⟩ := Url.stem_append r.url
  have hstem : (Url.stem r.url).toList <+: r.url.toList := ⟨rest, hurl.symm⟩
  exact (hurls _ h.url).imp (·.trans hstem) (·.trans hstem)

/-- The pattern of a path under the base, compared with the URLs of the list. -/
theorem exists_pattern_listUrls (path : String) (found : Bool)
    (h : (AnchoredPattern.compile? (RouteTable.joined urlBase path)).toOption.any
      (fun p => listUrls.all fun url => p.isMatch url == found) = true) :
    ∃ p, AnchoredPattern.compile? (RouteTable.joined urlBase path) = .ok p ∧
      ∀ url ∈ listUrls, p.isMatch url = found := by
  obtain ⟨p, hp, hall⟩ := exists_pattern path _ h
  refine ⟨p, hp, ?_⟩
  intro url hurl
  exact beq_iff_eq.mp (List.all_eq_true.mp hall url hurl)

/-- The backend of the service has a route for the list, which is found for requests that ask
for it. -/
theorem exists_listRoute [Inhabited σ] : ∃ b : Backend σ, backend = .ok b ∧
    ∀ r, AsksForList r → ∃ route, b.routes.find? r.method r.url = some route ∧
      route.handler = .management .listBackends := by
  obtain ⟨reset, hreset, hnotReset⟩ :=
    exists_pattern_listUrls "/moto-api/reset/?$" false (by decide +kernel)
  obtain ⟨health, hhealth, hnotHealth⟩ :=
    exists_pattern_listUrls "/moto-api/health/?$" false (by decide +kernel)
  obtain ⟨list, hlist, hmatches⟩ :=
    exists_pattern_listUrls "/moto-api/backends/?$" true (by decide +kernel)
  obtain ⟨metrics, hmetrics, -⟩ := exists_pattern "/moto-api/metrics/?$" (fun _ => true)
    (by decide +kernel)
  have hbuild := build_of_patterns (σ := σ) hreset hhealth hlist hmetrics
  refine ⟨_, backend_of_build hbuild, fun r hasks =>
    ⟨entry list "GET" "ListBackends" .listBackends, ?_, rfl⟩⟩
  have hother {p : AnchoredPattern} (hp : p.isMatch (Url.stem r.url) = false)
      (method operation : String) (action : ManagementAction) :
      (entry (σ := σ) p method operation action).isFor r.method (Url.stem r.url) = false := by
    simp [Route.isFor, entry, hp]
  have hfor : (entry (σ := σ) list "GET" "ListBackends" .listBackends).isFor r.method
      (Url.stem r.url) = true := by
    simp [Route.isFor, entry, hasks.method, hmatches _ hasks.url]
  simp only [RouteTable.find?, List.find?_cons, hother (hnotReset _ hasks.url),
    hother (hnotHealth _ hasks.url), hfor]

/-- The answer tells the keys: its body is JSON, which is read as these keys in this order. -/
structure TellsKeys (keys : List BackendKey) (s : Response) : Prop where
  status : s.status = 200
  contentType : s.headers.get? "Content-Type" = some "application/json"
  body : (Utf8.decode? s.body).bind readKeys? = some keys

/-- The answer of the service tells the keys. -/
theorem tellsKeys_json (keys : List BackendKey) : TellsKeys keys (.json 200 (keysJson keys)) where
  status := rfl
  contentType := rfl
  body := by
    have hbody : (Response.json 200 (keysJson keys)).body = Utf8.encode (keysJson keys).compact :=
      rfl
    rw [hbody, Utf8.decode?_encode]
    exact readKeys?_keysJson keys

/-- An answer that states its length tells what it told. -/
theorem TellsKeys.withContentLength {keys : List BackendKey} {s : Response}
    (h : TellsKeys keys s) : TellsKeys keys s.withContentLength where
  status := h.status
  contentType := (Headers.get?_insert_other (by decide) _ _).trans h.contentType
  body := h.body

end Management

namespace Emulator

variable {e : Emulator σ} {r : IncomingRequest} {a : Admission σ}

/-- A dispatch that comes to a handler leaves the registry that the handler leaves. -/
theorem Handles.registry_dispatch {result : HandlerResult} (h : e.Handles r a result)
    {matched : Route (Handler σ)} (hroute : a.route r = some matched) :
    (e.dispatch r).1.registry = (({ e with registry := a.registry } : Emulator σ).handle a.target
      matched.handler (a.request e r)).1.registry := by
  obtain ⟨hadmits, hsilent, -⟩ := h
  have hscheduled := hadmits.scheduled
  generalize e.dispatch r = dispatched at hscheduled
  cases hscheduled with
  | answered first => cases first.symm.trans hsilent
  | unrouted silent missing => cases missing.symm.trans hroute
  | handled silent found run quiet given after hooked registry =>
    cases found.symm.trans hroute
    rw [run]
    exact registry
  | failed silent found run quiet given hooked registry =>
    cases found.symm.trans hroute
    rw [run]
    exact registry

/-- What a handler answers passes the response hooks, and its length is stated before them and
after them. -/
theorem Handles.dispatch_answer {s : Response} (h : e.Handles r a (.answer s)) :
    (e.dispatch r).2.2 = .ok (rewritten s.withContentLength
      (afterRequest (a.request e r) (e.selected (a.request e r)))).withContentLength := by
  obtain ⟨hadmits, hsilent, matched, hroute, hresult⟩ := h
  have hscheduled := hadmits.scheduled
  generalize e.dispatch r = dispatched at hscheduled ⊢
  cases hscheduled with
  | answered first => cases first.symm.trans hsilent
  | unrouted silent missing => cases missing.symm.trans hroute
  | handled silent found run quiet given after hooked registry =>
    cases found.symm.trans hroute
    rw [run] at hresult
    cases hresult
    cases given
    rw [after]
    rfl
  | failed silent found run quiet given =>
    cases found.symm.trans hroute
    rw [run] at hresult
    cases hresult
    rcases given with ⟨message, hmessage, -⟩ | ⟨hpanic, -⟩
    · cases hmessage
    · cases hpanic

/-- Whenever the instance of an admission was constructed, the factory of the service gave its
backend. -/
theorem Admits.exists_factory_eq (h : e.Admits r a) (hconsistent : e.registry.Consistent)
    (hmade : e.registry.Made) : ∃ calls,
      a.registration.descriptor.factory calls a.target.region a.target.account =
        .ok a.target.backend := by
  obtain ⟨hmem, hkey⟩ := h.target_mem
  have hregistry := h.registry_accessed hconsistent
  have hlater := hconsistent.made_after hmade
    (.access a.registration.number e.config.account a.region)
  obtain ⟨t, ht, hdescriptor⟩ := hconsistent.registration?_after
    (hconsistent.registration?_of_get? h.registered)
    (.access a.registration.number e.config.account a.region)
  rw [hregistry] at hlater ht
  obtain ⟨s, calls, hs, hcall⟩ := hlater a.target.asBuilt (List.mem_map_of_mem hmem)
  have hnumber : a.target.asBuilt.registration = a.registration.number := congrArg Prod.fst hkey
  rw [hnumber, ht] at hs
  obtain rfl := Option.some.inj hs
  rw [hdescriptor] at hcall
  exact ⟨calls, hcall⟩

/-- A request is answered with what is listed behind it, unless a request hook answers in its
place. -/
structure TellsList (e : Emulator σ) (r : IncomingRequest) (a : Admission σ) : Prop where
  admits : e.Admits r a
  /-- The handler answers so, and response hooks may rewrite the answer. -/
  handled : firstAnswer? (a.request e r) (e.selected (a.request e r)) = none →
    ∃ s, Management.TellsKeys (e.dispatch r).1.registry.materialized s ∧
      e.Handles r a (.answer s) ∧
      (e.dispatch r).2.2 = .ok (rewritten s.withContentLength
        (afterRequest (a.request e r) (e.selected (a.request e r)))).withContentLength
  /-- Where no extension is selected, this is what the dispatch answers. -/
  outcome : e.selected (a.request e r) = [] →
    ∃ s, Management.TellsKeys (e.dispatch r).1.registry.materialized s ∧
      (e.dispatch r).2.2 = .ok s

/-- A request that comes to the action of the list is answered with what is listed. -/
theorem Admits.tellsList (h : e.Admits r a) {matched : Route (Handler σ)}
    (hroute : a.route r = some matched) (haction : matched.handler = .management .listBackends) :
    e.TellsList r a := by
  have hhandle : ({ e with registry := a.registry } : Emulator σ).handle a.target matched.handler
      (a.request e r) = ({ e with registry := a.registry }, [],
        .answer (.json 200 (Management.keysJson a.registry.materialized))) := by
    rw [haction]
    rfl
  have hhandled (hsilent : firstAnswer? (a.request e r) (e.selected (a.request e r)) = none) :
      ∃ s, Management.TellsKeys (e.dispatch r).1.registry.materialized s ∧
        e.Handles r a (.answer s) := by
    have hhandles : e.Handles r a
        (.answer (.json 200 (Management.keysJson a.registry.materialized))) :=
      ⟨h, hsilent, matched, hroute, by rw [hhandle]⟩
    have hregistry := hhandles.registry_dispatch hroute
    rw [hhandle] at hregistry
    rw [hregistry]
    exact ⟨_, Management.tellsKeys_json _, hhandles⟩
  refine ⟨h, ?_, ?_⟩
  · intro hsilent
    obtain ⟨s, htells, hhandles⟩ := hhandled hsilent
    exact ⟨s, htells, hhandles, hhandles.dispatch_answer⟩
  · intro hnone
    obtain ⟨s, htells, hhandles⟩ := hhandled (by rw [hnone]; rfl)
    have hanswer := hhandles.dispatch_answer
    rw [hnone] at hanswer
    exact ⟨_, htells.withContentLength.withContentLength, hanswer⟩

/-- The instance that a request comes to is listed behind it. -/
theorem Admits.key_mem_materialized (h : e.Admits r a) (hconsistent : e.registry.Consistent) :
    a.key e.config.account ∈ (e.dispatch r).1.registry.materialized := by
  have hleaves := e.leaves_dispatch r
  rw [hleaves.mem_materialized_iff hconsistent]
  exact .inr ⟨a, h, rfl⟩

section Managed

variable [Inhabited σ]

/-- No operation registers another service under the name of the management service. -/
def KeepsManagement (ops : List (Operation σ)) : Prop :=
  ∀ op ∈ ops, ∀ d, op.Registers d → d.name = Management.service → d = Management.descriptor

/-- The name of the management service leads to that service, to which the first pattern of the
index is. Instances have the backends that their factories gave. -/
structure ManagedAlways (e : Emulator σ) : Prop where
  consistent : e.registry.Consistent
  headed : e.Headed
  made : e.registry.Made
  provided : e.registry.Provides Management.descriptor

/-- In a history in which no other service takes its name, the management service stays what it
was. -/
theorem managedAlways_run (config : EmulatorConfig) {ops : List (Operation σ)}
    (hops : KeepsManagement ops) : ManagedAlways ((new config : Emulator σ).run ops) := by
  have hconsistent := consistent_new (σ := σ) config
  obtain ⟨pattern, hnew, -⟩ := new_eq (σ := σ) config
  obtain ⟨calls, hcalls, hasked⟩ := exists_registry_run hconsistent ops
  have hprovides : (new config : Emulator σ).registry.Provides Management.descriptor := by
    rw [hnew]
    exact Registry.provides_register {} Management.descriptor
  have hmade : (new config : Emulator σ).registry.Made := by
    rw [hnew]
    intro o ho
    cases ho
  have hnames : ∀ d, .register d ∈ calls → d.name = Management.service →
      d = Management.descriptor := by
    intro d hd
    obtain ⟨op, hop, hregisters⟩ := hasked d hd
    exact hops op hop d hregisters
  exact {
    consistent := consistent_run hconsistent ops
    headed := (headed_new config).run hconsistent ops
    made := by
      rw [hcalls]
      exact hconsistent.made_run hmade calls
    provided := by
      rw [hcalls]
      exact hconsistent.provides_run hprovides hnames }

/-- A request for the list is admitted to the management service, and the route of the list is
found for it. -/
theorem ManagedAlways.exists_admits (h : e.ManagedAlways) (hasks : Management.AsksForList r) :
    ∃ a, e.Admits r a ∧ a.key e.config.account =
        ⟨Management.service, e.config.account, "global"⟩ ∧
      ∃ route, a.route r = some route ∧ route.handler = .management .listBackends := by
  obtain ⟨g, hget, hdescriptor⟩ := h.provided
  obtain ⟨b, hbackend, hlist⟩ := Management.exists_listRoute (σ := σ)
  have hfactory (calls : Nat) (region account : String) :
      g.descriptor.factory calls region account = .ok b := by
    rw [hdescriptor]
    exact hbackend
  have hname : g.name = Management.service := Registry.name_of_get? hget
  have hclassified : e.index.classify? r.url = some g.name := by
    rw [hname]
    exact h.headed.classify?_eq hasks.hasOrigin
  have hregistered : e.registry.get? g.name = some g := by
    rw [hname]
    exact hget
  obtain ⟨a, hadmits, rfl⟩ := Emulator.exists_admits hasks.headers hclassified hregistered
    (.inr ⟨b, hfactory _ _ _⟩)
  obtain ⟨calls, hcall⟩ := hadmits.exists_factory_eq h.consistent h.made
  rw [hfactory] at hcall
  have hroutes : a.target.backend = b := (Except.ok.inj hcall).symm
  obtain ⟨route, hroute, hhandler⟩ := hlist r hasks
  refine ⟨a, hadmits, ?_, route, ?_, hhandler⟩
  · have hregion : a.region = "global" := by
      rw [Admission.region, hdescriptor]
      rfl
    rw [Admission.key, hname, hregion]
  · rw [Admission.route, hroutes]
    exact hroute

/-- What is promised of the listing of instances, and of the answer that tells it. -/
structure ListingLaws (config : EmulatorConfig) (ops : List (Operation σ)) : Prop where
  /-- The listing keeps its laws in every run of operations of a registry. -/
  materialized : ∀ calls : List (Registry.Operation σ), Registry.MaterializedLaws calls
  /-- The registry of an emulator is one that such a run leaves. -/
  registry : ∃ calls, ((new config : Emulator σ).run ops).registry = ({} : Registry σ).run calls
  /-- Requests that come to the action of the list are answered with all that is listed, in that
  order. The instance that they come to is there. -/
  answers : ∀ r a matched, ((new config : Emulator σ).run ops).Admits r a →
    a.route r = some matched → matched.handler = .management .listBackends →
      ((new config : Emulator σ).run ops).TellsList r a ∧
        a.key config.account ∈
          (((new config : Emulator σ).run ops).dispatch r).1.registry.materialized
  /-- As long as no other service takes its name, the management service answers the requests
  for the list so. -/
  told : KeepsManagement ops → ∀ r, Management.AsksForList r →
    ∃ a, ((new config : Emulator σ).run ops).TellsList r a
  /-- Its own instance is listed then. -/
  own : KeepsManagement ops → ∀ r, Management.AsksForList r →
    ⟨Management.service, config.account, "global"⟩ ∈
      (((new config : Emulator σ).run ops).dispatch r).1.registry.materialized

/-- **The listing.** It shows in order which instances registered services have given, and the
management service tells it as it is. -/
theorem listingLaws (config : EmulatorConfig) (ops : List (Operation σ)) :
    ListingLaws config ops := by
  have hfresh := consistent_new (σ := σ) config
  have hconsistent := consistent_run hfresh ops
  obtain ⟨pattern, hnew, -⟩ := new_eq (σ := σ) config
  have hconfig : ((new config : Emulator σ).run ops).config = config := by
    rw [config_run hfresh ops, hnew]
  exact {
    materialized := Registry.materializedLaws
    registry := by
      obtain ⟨calls, hcalls, -⟩ := exists_registry_run hfresh ops
      refine ⟨.register Management.descriptor :: calls, ?_⟩
      rw [hcalls, hnew]
      rfl
    answers := fun r a matched hadmits hroute haction => by
      have hmem := hadmits.key_mem_materialized hconsistent
      rw [hconfig] at hmem
      exact ⟨hadmits.tellsList hroute haction, hmem⟩
    told := fun hops r hasks => by
      obtain ⟨a, hadmits, -, matched, hroute, haction⟩ :=
        (managedAlways_run config hops).exists_admits hasks
      exact ⟨a, hadmits.tellsList hroute haction⟩
    own := fun hops r hasks => by
      obtain ⟨a, hadmits, hkey, -⟩ := (managedAlways_run config hops).exists_admits hasks
      have hmem := hadmits.key_mem_materialized hconsistent
      rw [hkey, hconfig] at hmem
      exact hmem }

end Managed

-- The name of the method may be written in lower case, and the path may be followed by a query.
example : Management.AsksForList
    ⟨"get", "https://motoapi.amazonaws.com/moto-api/backends/?all", [], []⟩ :=
  ⟨nofun, by decide, by decide⟩

end Emulator

end CloudEmulator
