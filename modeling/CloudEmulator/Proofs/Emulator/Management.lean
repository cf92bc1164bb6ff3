import CloudEmulator.Proofs.Emulator.Front
import CloudEmulator.Proofs.Fallible

/-!
# The management service

Its backend is always constructed, keeps its contract and has no handlers of its own. As
long as the service is registered as it was at first, the request for a reset comes to it.
-/

namespace CloudEmulator

variable {σ : Type}

namespace RouteTable

variable {α : Type}

/-- A route joins a table with one base if its pattern is valid behind the base. -/
theorem add_of_compile {base : String} {spec : RouteSpec α} {pattern : AnchoredPattern}
    (h : AnchoredPattern.compile? (joined base spec.path) = .ok pattern)
    (routes : List (Route α)) :
    add ⟨[base], routes⟩ spec = .ok ⟨[base], routes ++
      [⟨pattern, spec.method.map Text.upper, spec.operation, spec.handler⟩]⟩ := by
  simp [add, h, bind, Except.bind, pure, Except.pure]

/-- A table with one base is built from routes whose patterns are valid behind it. -/
theorem build_go_of_compile {base : String} {specs : List (RouteSpec α)}
    {patterns : List AnchoredPattern}
    (h : List.Forall₂ (fun spec pattern =>
      AnchoredPattern.compile? (joined base spec.path) = .ok pattern) specs patterns)
    (i : Nat) (routes : List (Route α)) :
    build.go i ⟨[base], routes⟩ specs = .ok ⟨[base], routes ++ List.zipWith (fun spec pattern =>
      ⟨pattern, spec.method.map Text.upper, spec.operation, spec.handler⟩) specs patterns⟩ := by
  induction h generalizing i routes with
  | nil => simp [build.go]
  | cons hfirst _ ih =>
    rw [build.go, add_of_compile hfirst]
    simp only [ih, List.zipWith_cons_cons, List.append_assoc, List.singleton_append]

end RouteTable

namespace Management

/-- The URL of a reset. -/
def resetUrl : String := "http://motoapi.amazonaws.com/moto-api/reset"

/-- The request for a reset. -/
def resetRequest : IncomingRequest where
  method := "POST"
  url := resetUrl

/-- A route has a valid pattern behind the base of the service. -/
def HasPattern (spec : RouteSpec (Handler σ)) (pattern : AnchoredPattern) : Prop :=
  AnchoredPattern.compile? (RouteTable.joined urlBase spec.path) = .ok pattern

/-- A path whose pattern passes a check, where it is evaluated, has a valid pattern that passes
the check. -/
theorem exists_pattern (path : String) (check : AnchoredPattern → Bool)
    (h : (AnchoredPattern.compile? (RouteTable.joined urlBase path)).toOption.any check = true) :
    ∃ pattern, AnchoredPattern.compile? (RouteTable.joined urlBase path) = .ok pattern ∧
      check pattern = true := by
  obtain ⟨pattern, hpattern, hcheck⟩ := (Option.any_eq_true _ _).mp h
  exact ⟨pattern, Fallible.toOption_eq_some.mp hpattern, hcheck⟩

/-- An entry of the table of the service. -/
def entry (pattern : AnchoredPattern) (method operation : String) (action : ManagementAction) :
    Route (Handler σ) where
  pattern := pattern
  method := some (Text.upper method)
  operation := some operation
  handler := .management action

/-- The table of the service is built from the patterns of its routes. -/
theorem build_of_patterns {reset health list metrics : AnchoredPattern}
    (hreset : AnchoredPattern.compile? (RouteTable.joined urlBase "/moto-api/reset/?$") =
      .ok reset)
    (hhealth : AnchoredPattern.compile? (RouteTable.joined urlBase "/moto-api/health/?$") =
      .ok health)
    (hlist : AnchoredPattern.compile? (RouteTable.joined urlBase "/moto-api/backends/?$") =
      .ok list)
    (hmetrics : AnchoredPattern.compile? (RouteTable.joined urlBase "/moto-api/metrics/?$") =
      .ok metrics) :
    RouteTable.build [urlBase] (routes (σ := σ)) = .ok ⟨[urlBase],
      [entry reset "POST" "ResetBackends" .reset, entry health "GET" "Health" .health,
        entry list "GET" "ListBackends" .listBackends,
        entry metrics "GET" "Metrics" .metrics]⟩ := by
  have hpatterns : List.Forall₂ HasPattern (routes (σ := σ)) [reset, health, list, metrics] :=
    .cons hreset (.cons hhealth (.cons hlist (.cons hmetrics .nil)))
  exact RouteTable.build_go_of_compile hpatterns 0 []

/-- The table of the service is built. Its first entry is found for the URL of a reset. -/
theorem exists_table : ∃ table reset health list metrics,
    RouteTable.build [urlBase] (routes (σ := σ)) = .ok table ∧
      table.routes = [entry reset "POST" "ResetBackends" .reset,
        entry health "GET" "Health" .health, entry list "GET" "ListBackends" .listBackends,
        entry metrics "GET" "Metrics" .metrics] ∧
      reset.isMatch (Url.stem resetUrl) = true := by
  obtain ⟨reset, hreset, hmatch⟩ := exists_pattern "/moto-api/reset/?$"
    (·.isMatch (Url.stem resetUrl)) (by decide +kernel)
  obtain ⟨health, hhealth, -⟩ := exists_pattern "/moto-api/health/?$" (fun _ => true)
    (by decide +kernel)
  obtain ⟨list, hlist, -⟩ := exists_pattern "/moto-api/backends/?$" (fun _ => true)
    (by decide +kernel)
  obtain ⟨metrics, hmetrics, -⟩ := exists_pattern "/moto-api/metrics/?$" (fun _ => true)
    (by decide +kernel)
  have hbuild := build_of_patterns (σ := σ) hreset hhealth hlist hmetrics
  exact ⟨_, reset, health, list, metrics, hbuild, rfl, hmatch⟩

/-- The backend of the service has its table. -/
theorem backend_of_build [Inhabited σ] {table : RouteTable (Handler σ)}
    (h : RouteTable.build [urlBase] routes = .ok table) :
    backend = .ok (⟨table, default, id⟩ : Backend σ) :=
  congrArg (fun built : Except Nat (RouteTable (Handler σ)) =>
    (built.mapError fun _ => ConstructionFault.invalidPattern).map fun table =>
      (⟨table, default, id⟩ : Backend σ)) h

/-- The backend of the service is constructed. It has a route for the request of a reset, and
its routes have no handlers of its own, so that its state stays fresh. -/
theorem exists_backend [Inhabited σ] : ∃ b : Backend σ, backend = .ok b ∧ b.Renews ∧
    ∃ route, b.routes.find? "POST" resetUrl = some route ∧ route.handler = .management .reset := by
  obtain ⟨table, reset, health, list, metrics, hbuild, hroutes, hmatch⟩ := exists_table (σ := σ)
  have hbackend := backend_of_build hbuild
  refine ⟨_, hbackend, ?_, entry reset "POST" "ResetBackends" .reset, ?_, rfl⟩
  · intro state hreaches
    induction hreaches with
    | fresh => rfl
    | handled before declared own request ih =>
      simp only [hroutes, List.mem_cons, List.not_mem_nil, or_false] at declared
      rcases declared with rfl | rfl | rfl | rfl <;> cases own
  · have hmethod : Text.sameName (Text.upper "POST") "POST" = true := by decide
    have hfor : (entry (σ := σ) reset "POST" "ResetBackends" .reset).isFor "POST"
        (Url.stem resetUrl) = true := by
      simp [Route.isFor, entry, hmethod, hmatch]
    rw [RouteTable.find?, hroutes]
    exact List.find?_cons_of_pos hfor

/-- The factory of the service always gives that backend. -/
theorem descriptor_renews [Inhabited σ] : (descriptor (σ := σ)).Renews := by
  intro calls account region _
  obtain ⟨b, hbackend, hrenews, -⟩ := exists_backend (σ := σ)
  exact ⟨b, hbackend, hrenews⟩

/-- The pattern of the service is valid, and matches the URL of a reset. -/
theorem exists_urlPattern : ∃ pattern, UrlPattern.compile? service urlBase = .ok pattern ∧
    pattern.service = service ∧ pattern.pattern.isMatch resetUrl = true := by
  have hmatches : (UrlPattern.compile? service urlBase).toOption.any
      (fun pattern => pattern.service == service && pattern.pattern.isMatch resetUrl) = true := by
    decide +kernel
  obtain ⟨pattern, hpattern, hmatch⟩ := (Option.any_eq_true _ _).mp hmatches
  rw [Bool.and_eq_true, beq_iff_eq] at hmatch
  exact ⟨pattern, Fallible.toOption_eq_some.mp hpattern, hmatch⟩

end Management

/-- A URL keeps its service when patterns are added. -/
theorem UrlIndex.classify?_extend {index : UrlIndex} {url service : String}
    (h : index.classify? url = some service) (patterns : List UrlPattern) :
    (index.extend patterns).classify? url = some service := by
  obtain ⟨pattern, hfind, hservice⟩ := Option.map_eq_some_iff.mp h
  rw [classify?, extend, List.find?_append, hfind, Option.some_or, Option.map_some, hservice]

/-- A registration changes no face of a service with another name. -/
theorem Registry.face?_register_of_ne {d : ServiceDescriptor σ} {service : String}
    (hname : d.name ≠ service) (registry : Registry σ) (account : String) :
    (registry.register d).face? account service = registry.face? account service := by
  have hother : (⟨d, registry.registered, 0⟩ : Registration σ).name ≠ service := hname
  have hget : (registry.register d).get? service = registry.get? service :=
    find?_place_of_ne hother registry.registrations
  unfold face?
  rw [hget]
  rfl

namespace Emulator

variable {e next : Emulator σ} {d : ServiceDescriptor σ}

/-- A registered service joins the registry, and its patterns the index. -/
theorem registerService_eq (h : e.registerService d = .ok next) : ∃ patterns,
    next = { e with registry := e.registry.register d, index := e.index.extend patterns } := by
  obtain ⟨patterns, -, hnext⟩ := Fallible.bind_eq_ok.mp h
  exact ⟨patterns, (Except.ok.inj hnext).symm⟩

variable [Inhabited σ]

/-- The management service is as it was registered first: the URL of a reset belongs to it,
and requests see its backend. -/
structure Managed (e : Emulator σ) : Prop where
  classified : e.index.classify? Management.resetUrl = some Management.service
  faced : ∃ face, e.front.face? Management.service = some face ∧
    Management.backend = .ok face.backend

/-- A new emulator has the service under what its base is compiled to. -/
theorem new_of_compile {pattern : UrlPattern}
    (h : UrlPattern.compile? Management.service Management.urlBase = .ok pattern)
    (config : EmulatorConfig) : (new config : Emulator σ) =
      { config, registry := ({} : Registry σ).register Management.descriptor,
        index := ⟨[pattern]⟩ } := by
  have hpatterns : (Management.descriptor (σ := σ)).urlBases.mapM
      (UrlPattern.compile? (Management.descriptor (σ := σ)).name) = .ok [pattern] := by
    change [Management.urlBase].mapM (UrlPattern.compile? Management.service) = .ok [pattern]
    rw [List.mapM_cons, h, List.mapM_nil]
    rfl
  rw [new, registerService, hpatterns]
  rfl

/-- A new emulator has no more than the management service. -/
theorem new_eq (config : EmulatorConfig) : ∃ pattern,
    (new config : Emulator σ) =
        { config, registry := ({} : Registry σ).register Management.descriptor,
          index := ⟨[pattern]⟩ } ∧
      pattern.service = Management.service ∧
      pattern.pattern.isMatch Management.resetUrl = true := by
  obtain ⟨pattern, hcompile, hpattern⟩ := Management.exists_urlPattern
  exact ⟨pattern, new_of_compile hcompile config, hpattern⟩

/-- A new emulator has the management service. -/
theorem managed_new (config : EmulatorConfig) : (new config : Emulator σ).Managed := by
  obtain ⟨pattern, hnew, hservice, hmatch⟩ := new_eq (σ := σ) config
  obtain ⟨b, hbackend, -, -⟩ := Management.exists_backend (σ := σ)
  rw [hnew]
  constructor
  · have hfind : [pattern].find? (·.pattern.isMatch Management.resetUrl) = some pattern :=
      List.find?_cons_of_pos hmatch
    rw [UrlIndex.classify?, hfind, Option.map_some, hservice]
  · let g : Registration σ := ⟨Management.descriptor, 0, 0⟩
    let registry : Registry σ := ({} : Registry σ).register Management.descriptor
    have hget : registry.get? Management.service = some g :=
      Registry.find?_place_self g ({} : Registry σ).registrations
    have hface : registry.face? config.account Management.service =
        some ⟨g.descriptor.scope.preferred, b, b.state⟩ :=
      (Registry.face?_of_get? hget).trans (Registry.faceOf?_of_absent rfl hbackend)
    exact ⟨_, hface, hbackend⟩

/-- The management service stays when services with other names are registered. -/
theorem Managed.registerService (h : e.Managed) (hname : d.name ≠ Management.service)
    (hregister : e.registerService d = .ok next) : next.Managed := by
  obtain ⟨patterns, rfl⟩ := registerService_eq hregister
  refine ⟨UrlIndex.classify?_extend h.classified patterns, ?_⟩
  obtain ⟨face, hface, hbackend⟩ := h.faced
  exact ⟨face, (Registry.face?_register_of_ne hname _ _).trans hface, hbackend⟩

/-- The request for a reset comes to it. -/
theorem Managed.endpoint?_resetRequest (h : e.Managed) (hplain : e.Plain) :
    e.endpoint? Management.resetRequest = some .reset := by
  obtain ⟨face, hface, hbackend⟩ := h.faced
  obtain ⟨b, hgiven, -, route, hroute, hhandler⟩ := Management.exists_backend (σ := σ)
  obtain rfl := Except.ok.inj (hgiven.symm.trans hbackend)
  have hvisit : e.front.visit Management.resetRequest =
      .arrived (e.front.request Management.resetRequest {} Management.service face route) face
        route.handler := by
    have hclassified : e.front.index.classify? Management.resetUrl = some Management.service :=
      h.classified
    have hheaders : Headers.ofRaw Management.resetRequest.headers = .ok {} := rfl
    have hurl : Management.resetRequest.url = Management.resetUrl := rfl
    have hmethod : Management.resetRequest.method = "POST" := rfl
    unfold Front.visit
    simp only [hheaders, hurl, hclassified, hface, Front.visitFace, hmethod, hroute]
  rw [(hplain.mirrored _).endpoint, hvisit, hhandler]
  rfl

end Emulator

end CloudEmulator
