import CloudEmulator.Proofs.Emulator.Histories
import CloudEmulator.Proofs.Routing.Scheme

/-!
# Registering services

A service joins the registry and the index together, or neither. Its bases are compiled before
anything is written, and the first that cannot be compiled decides how the registration fails.
The services that URLs belong to are then always registered.
-/

namespace CloudEmulator

open Fallible

variable {σ : Type}

namespace UrlPattern

variable {service written : String}

/-- A text without the scheme at its start is refused for that. -/
theorem compile?_of_unanchored (h : startsWithScheme written.toList = false) :
    compile? service written = .error (.unanchored service written) := by
  rw [compile?, h]
  rfl

/-- A text that is no pattern on its own, and not for closing a group that it does not open, is
refused as no pattern. -/
theorem compile?_of_refused {refusal : Pattern.Refusal}
    (hscheme : startsWithScheme written.toList = true)
    (hrefused : Pattern.compile? written = .error refusal) (hopened : refusal ≠ .unopenedGroup) :
    ∃ refusal', compile? service written = .error (.invalidPattern service refusal') := by
  have hclosed : Pattern.compile? written ≠ .error .unopenedGroup := by
    rw [hrefused]
    intro hsame
    exact hopened (Except.error.inj hsame)
  cases hanchored : AnchoredPattern.compile? written with
  | error refusal' =>
    refine ⟨refusal', ?_⟩
    rw [compile?, if_pos hscheme, hanchored]
  | ok p =>
    obtain ⟨pattern, hpattern, -⟩ := AnchoredPattern.exists_spans_of_compile? hclosed hanchored
    rw [hrefused] at hpattern
    cases hpattern

end UrlPattern

namespace Registry

variable {registry : Registry σ} {service : String}

/-- A service is registered where its name leads to a registration. -/
theorem contains_iff : registry.contains service = true ↔
    ((registry.get? service).map (·.number)).isSome = true := by
  rw [contains, Option.isSome_map]

/-- A service that is registered now is there. -/
theorem contains_register (registry : Registry σ) (d : ServiceDescriptor σ) :
    (registry.register d).contains d.name = true := by
  have hget : (registry.register d).get? d.name = some ⟨d, registry.registered, 0⟩ :=
    find?_place_self ⟨d, registry.registered, 0⟩ registry.registrations
  rw [contains, hget, Option.isSome_some]

/-- No operation makes a service unregistered. -/
theorem contains_after (h : registry.contains service = true) (op : Operation σ) :
    (registry.after op).contains service = true := by
  by_cases hother : ∀ d, op = .register d → d.name ≠ service
  · rw [contains_iff] at h ⊢
    rw [registry.get?_after service hother]
    exact h
  · obtain ⟨d, rfl, rfl⟩ : ∃ d, op = .register d ∧ d.name = service := by simpa using hother
    exact registry.contains_register d

/-- No run does. -/
theorem contains_run (h : registry.contains service = true) (ops : List (Operation σ)) :
    (registry.run ops).contains service = true := by
  induction ops generalizing registry with
  | nil => exact h
  | cons op ops ih => exact ih (contains_after h op)

end Registry

namespace Emulator

variable {e next : Emulator σ} {d : ServiceDescriptor σ}

section Writing

/-- Steps that may write to an emulator or fail, and leave what was written when they fail. -/
abbrev Writing (σ α : Type) := ExceptT UrlPatternError (StateM (Emulator σ)) α

/-- How the steps end from an emulator on, and what they leave of it. -/
def Writing.from {α : Type} (steps : Writing σ α) (e : Emulator σ) :
    Except UrlPatternError α × Emulator σ :=
  (ExceptT.run steps).run e

/-- The registration of a service, base by base and write by write. The registry is written
before the index. -/
def registering (d : ServiceDescriptor σ) : Writing σ Unit := do
  let patterns ← d.urlBases.mapM fun base => ofExcept (UrlPattern.compile? d.name base)
  modify fun e => { e with registry := e.registry.register d }
  modify fun e => { e with index := e.index.extend patterns }

/-- Steps behind others start from what those leave, unless they failed. -/
theorem Writing.bind_from {α β : Type} (first : Writing σ α) (later : α → Writing σ β)
    (e : Emulator σ) : Writing.from (first >>= later) e =
      match Writing.from first e with
      | (.ok a, next) => Writing.from (later a) next
      | (.error fault, next) => (.error fault, next) := by
  change (ExceptT.run first >>= ExceptT.bindCont later) e = _
  simp only [Writing.from, StateT.run, bind, StateT.bind]
  rcases ExceptT.run first e with ⟨fault | a, next⟩
  · rfl
  · rfl

/-- What only may fail writes nothing. -/
theorem Writing.ofExcept_from {α : Type} (x : Except UrlPatternError α) (e : Emulator σ) :
    Writing.from (ofExcept x : Writing σ α) e = (x, e) := by
  cases x <;> rfl

/-- So do any number of such steps. -/
theorem Writing.mapM_from {α β : Type} (f : α → Except UrlPatternError β) (xs : List α)
    (e : Emulator σ) :
    Writing.from (xs.mapM fun x => (ofExcept (f x) : Writing σ β)) e = (xs.mapM f, e) := by
  induction xs with
  | nil => rfl
  | cons x xs ih =>
    rw [List.mapM_cons, List.mapM_cons, Writing.bind_from, Writing.ofExcept_from]
    cases f x with
    | error fault => rfl
    | ok y =>
      simp only
      rw [Writing.bind_from, ih]
      cases xs.mapM f with
      | error fault => rfl
      | ok ys => rfl

/-- Write by write, a registration ends as it does at once, and one that fails has written
nothing. -/
theorem registering_from (d : ServiceDescriptor σ) (e : Emulator σ) :
    Writing.from (registering d) e =
      match e.registerService d with
      | .ok next => (.ok (), next)
      | .error fault => (.error fault, e) := by
  rw [registering, Writing.bind_from, Writing.mapM_from, registerService]
  cases d.urlBases.mapM (UrlPattern.compile? d.name) with
  | error fault => rfl
  | ok patterns => rfl

end Writing

/-- A service is registered exactly where all of its bases are compiled. -/
theorem registerService_eq_ok : e.registerService d = .ok next ↔ ∃ patterns,
    List.Forall₂ (fun base p => UrlPattern.compile? d.name base = .ok p) d.urlBases patterns ∧
      next = { e with registry := e.registry.register d, index := e.index.extend patterns } := by
  rw [registerService, bind_eq_ok]
  simp only [mapM_eq_ok]
  refine exists_congr fun patterns => and_congr_right fun _ => ?_
  rw [pure_eq_ok]
  exact eq_comm

/-- A registration fails as its first base does that cannot be compiled. -/
theorem registerService_eq_error {fault : UrlPatternError} :
    e.registerService d = .error fault ↔ ∃ front base later, d.urlBases = front ++ base :: later ∧
      (∀ earlier ∈ front, ∃ p, UrlPattern.compile? d.name earlier = .ok p) ∧
      UrlPattern.compile? d.name base = .error fault := by
  rw [registerService, bind_eq_error, ← mapM_eq_error]
  refine or_iff_left ?_
  rintro ⟨_, -, hpure⟩
  cases hpure

/-- Every service that the index names is registered. -/
def Backed (e : Emulator σ) : Prop :=
  ∀ p ∈ e.index.patterns, e.registry.contains p.service = true

/-- An operation that adds no pattern without a service leaves all services of the index
registered. -/
theorem Backed.after (h : e.Backed) (hconsistent : e.registry.Consistent) {op : Operation σ}
    (hop : ∀ service written, op ≠ .registerPattern service written) : (e.after op).Backed := by
  have hperformed := performed_after hconsistent op
  generalize e.after op = next at hperformed
  cases hperformed with
  | @service d patterns compiled =>
    intro p hp
    rcases List.mem_append.mp hp with hold | hnew
    · exact Registry.contains_after (h p hold) (.register d)
    · obtain ⟨base, -, hcompile⟩ := exists_of_mem_mapM compiled hnew
      obtain ⟨-, -, hservice⟩ := UrlPattern.compile?_eq_ok.mp hcompile
      rw [hservice]
      exact e.registry.contains_register d
  | pattern compiled => exact absurd rfl (hop _ _)
  | other calls config index registry asked =>
    intro p hp
    rw [index] at hp
    rw [registry]
    exact Registry.contains_run (h p hp) calls

/-- So does a run. -/
theorem Backed.run (h : e.Backed) (hconsistent : e.registry.Consistent) {ops : List (Operation σ)}
    (hops : ∀ service written, .registerPattern service written ∉ ops) : (e.run ops).Backed := by
  induction ops generalizing e with
  | nil => exact h
  | cons op ops ih =>
    have hfirst : ∀ service written, op ≠ .registerPattern service written := by
      rintro service written rfl
      exact hops service written List.mem_cons_self
    refine ih (h.after hconsistent hfirst) (consistent_run hconsistent [op]) ?_
    intro service written hmem
    exact hops service written (List.mem_cons_of_mem _ hmem)

/-- A new emulator has registered the service that its index names. -/
theorem backed_new [Inhabited σ] (config : EmulatorConfig) : (new config : Emulator σ).Backed := by
  obtain ⟨pattern, hnew, hservice, -⟩ := new_eq (σ := σ) config
  rw [hnew]
  intro p hp
  rw [List.mem_singleton.mp hp, hservice]
  exact Registry.contains_register {} Management.descriptor

/-- The service of a URL is registered, where all services of the index are. -/
theorem Backed.exists_get? (h : e.Backed) {url service : String}
    (hclassify : e.index.classify? url = some service) :
    ∃ g, e.registry.get? service = some g := by
  obtain ⟨p, hp, rfl, -⟩ := UrlIndex.exists_match hclassify
  exact Option.isSome_iff_exists.mp (h p hp)

/-- A request for a URL of a registered service comes to the service, unless its headers cannot
be read or the service gives no instance. -/
theorem Backed.outcome_or_admits (h : e.Backed) {r : IncomingRequest} {service : String}
    (hclassify : e.index.classify? r.url = some service) :
    (∃ name, (e.dispatch r).2.2 = .error (.invalidHeader name)) ∨
      (∃ fault, (e.dispatch r).2.2 = .error (.backend fault)) ∨
      ∃ a, e.Admits r a ∧ a.registration.name = service := by
  obtain ⟨g, hget⟩ := h.exists_get? hclassify
  rcases e.stopped_or_admitted r with ⟨name, hheaders⟩ | ⟨headers, -, hunserved⟩ |
    ⟨headers, g', registry, fault, hheaders, hserved, hinstance⟩ | ⟨a, hadmits⟩
  · rw [dispatch_of_invalid hheaders]
    exact .inl ⟨name, rfl⟩
  · rw [hclassify, Option.bind_some, hget] at hunserved
    cases hunserved
  · rw [dispatch_of_fault hheaders hserved hinstance]
    exact .inr (.inl ⟨fault, rfl⟩)
  · have hname := hadmits.classified.symm.trans hclassify
    exact .inr (.inr ⟨a, hadmits, Option.some.inj hname⟩)

/-- What registering services does, and what it never leaves. -/
structure RegisteringLaws (σ : Type) [Inhabited σ] : Prop where
  /-- A registration that fails has written nothing, neither to the index nor to the registry,
  whose earlier registration of the name stays with its instances. -/
  refused : ∀ (e : Emulator σ) d fault, e.registerService d = .error fault →
    Writing.from (registering d) e = (.error fault, e)
  /-- It fails as the first of its bases does that cannot be compiled. -/
  first : ∀ (e : Emulator σ) d fault, e.registerService d = .error fault ↔
    ∃ front base later, d.urlBases = front ++ base :: later ∧
      (∀ earlier ∈ front, ∃ p, UrlPattern.compile? d.name earlier = .ok p) ∧
      UrlPattern.compile? d.name base = .error fault
  /-- A base that does not begin with the scheme cannot be compiled. -/
  unanchored : ∀ service base, UrlPattern.startsWithScheme base.toList = false →
    UrlPattern.compile? service base = .error (.unanchored service base)
  /-- Neither can one that is no pattern on its own, unless it closes a group that it does not
  open. -/
  invalid : ∀ service base refusal, UrlPattern.startsWithScheme base.toList = true →
    Pattern.compile? base = .error refusal → refusal ≠ .unopenedGroup →
      ∃ refusal', UrlPattern.compile? service base = .error (.invalidPattern service refusal')
  /-- With all bases compiled, the index has gained them at its end, in their order, and the
  registry the service. Nothing else is changed. -/
  accepted : ∀ (e : Emulator σ) d next, e.registerService d = .ok next ↔ ∃ patterns,
    List.Forall₂ (fun base p => UrlPattern.compile? d.name base = .ok p) d.urlBases patterns ∧
      next = { e with registry := e.registry.register d, index := e.index.extend patterns }
  /-- All writes have been made then, and the name leads to the new registration. -/
  written : ∀ (e : Emulator σ) d next, e.registerService d = .ok next →
    Writing.from (registering d) e = (.ok (), next) ∧
      next.registry.get? d.name = some ⟨d, e.registry.registered, 0⟩
  /-- Between the two writes, too, every service that the index names is registered. -/
  between : ∀ (e : Emulator σ) d, e.Backed →
    ({ e with registry := e.registry.register d } : Emulator σ).Backed
  /-- In a history of an emulator in which no pattern is added without a service, the service
  that a URL belongs to is always registered. A request for the URL comes to it, unless its
  headers cannot be read or the service gives no instance. -/
  served : ∀ config (ops : List (Operation σ)),
    (∀ service written, .registerPattern service written ∉ ops) →
    ∀ r service, ((new config).run ops).index.classify? r.url = some service →
      ((new config).run ops).registry.contains service = true ∧
      ((∃ name, (((new config).run ops).dispatch r).2.2 = .error (.invalidHeader name)) ∨
        (∃ fault, (((new config).run ops).dispatch r).2.2 = .error (.backend fault)) ∨
        ∃ a, ((new config).run ops).Admits r a ∧ a.registration.name = service)

/-- **Services are registered as a whole.** A registration compiles every base before it writes,
so that it fails without a trace, and the index never names a service that is not there. -/
theorem registeringLaws [Inhabited σ] : RegisteringLaws σ where
  refused := fun e d fault h => by rw [registering_from, h]
  first := fun e d fault => registerService_eq_error
  unanchored := fun service base h => UrlPattern.compile?_of_unanchored h
  invalid := fun service base refusal hscheme hrefused hopened =>
    UrlPattern.compile?_of_refused hscheme hrefused hopened
  accepted := fun e d next => registerService_eq_ok
  written := fun e d next h => by
    constructor
    · rw [registering_from, h]
    · obtain ⟨patterns, rfl⟩ := registerService_eq h
      exact Registry.find?_place_self ⟨d, e.registry.registered, 0⟩ e.registry.registrations
  between := fun e d hbacked p hp => Registry.contains_after (hbacked p hp) (.register d)
  served := fun config ops hops r service hclassify => by
    have hbacked := (backed_new (σ := σ) config).run (consistent_new config) hops
    obtain ⟨g, hget⟩ := hbacked.exists_get? hclassify
    refine ⟨?_, hbacked.outcome_or_admits hclassify⟩
    rw [Registry.contains, hget, Option.isSome_some]

/-- A service whose base closes the group that it is put into. -/
def escapingService : ServiceDescriptor Unit where
  name := "svc1"
  scope := .everywhere
  urlBases := [AnchoredPattern.escapingPattern]
  factory _ _ _ := .error (.failed "no backend")

/-- The base is no pattern, and the service is registered with it. URLs of other hosts then
belong to it. -/
theorem escapingService_registered :
    Pattern.compile? AnchoredPattern.escapingPattern = .error .unopenedGroup ∧
      ∃ next, (new {}).registerService escapingService = .ok next ∧
        next.registry.contains "svc1" = true ∧
        next.index.classify? "http://other.example.com/b" = some "svc1" := by
  have hfault : fault? (Pattern.compile? AnchoredPattern.escapingPattern) =
      some .unopenedGroup := by decide +kernel
  have hregister : ((new {}).registerService escapingService).toOption.map (fun next =>
      (next.registry.contains "svc1", next.index.classify? "http://other.example.com/b")) =
      some (true, some "svc1") := by decide +kernel
  obtain ⟨next, hnext, hvalues⟩ := Option.map_eq_some_iff.mp hregister
  obtain ⟨hcontains, hclassify⟩ := Prod.ext_iff.mp hvalues
  exact ⟨fault?_eq_some.mp hfault, next, toOption_eq_some.mp hnext, hcontains, hclassify⟩

end Emulator

end CloudEmulator
