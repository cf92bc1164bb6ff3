import CloudEmulator.Proofs.Backend.Materialized
import CloudEmulator.Proofs.Emulator.Frame

/-!
# Histories of an emulator

Whatever can be done with an emulator, one operation after the other. The index only grows at
its end, by patterns that were compiled for it. The registry is always one that operations of
its own make, among which are no registrations but those that were asked for.
-/

namespace CloudEmulator

variable {σ : Type}

namespace Emulator

/-- What can be done with an emulator. -/
inductive Operation (σ : Type) where
  | registerService (d : ServiceDescriptor σ)
  /-- Add a pattern for a service to the index, without the service. -/
  | registerPattern (service written : String)
  /-- Work on the registry, or on what it gave out. -/
  | onRegistry (op : Registry.Operation σ)
  | onPipeline (op : Pipeline.Operation)
  | loadExtensions (clocks : Extension.Clocks) (contents : Option Bytes) (priority : Int)
  | dispatch (r : IncomingRequest)
  | registerResetHook (name : String)
  | reset
  | setIntercepting (on : Bool)

/-- The operation registers the service, with its patterns or without them. -/
def Operation.Registers (op : Operation σ) (d : ServiceDescriptor σ) : Prop :=
  op = .registerService d ∨ op = .onRegistry (.register d)

/-- The emulator that an operation leaves. What is refused changes nothing. -/
def after (e : Emulator σ) : Operation σ → Emulator σ
  | .registerService d =>
    match e.registerService d with
    | .ok next => next
    | .error _ => e
  | .registerPattern service written =>
    match e.index.register service written with
    | .ok index => { e with index }
    | .error _ => e
  | .onRegistry op => { e with registry := e.registry.after op }
  | .onPipeline op => { e with pipeline := e.pipeline.after op }
  | .loadExtensions clocks contents priority =>
    match e.loadExtensions clocks contents priority with
    | .ok (next, _) => next
    | .error _ => e
  | .dispatch r => (e.dispatch r).1
  | .registerResetHook name => e.registerResetHook name
  | .reset => e.reset.1
  | .setIntercepting on => { e with intercepting := on }

/-- The emulator that some operations leave. -/
def run (e : Emulator σ) (ops : List (Operation σ)) : Emulator σ :=
  ops.foldl after e

variable {e next : Emulator σ} {op : Operation σ} {r : IncomingRequest} {d : ServiceDescriptor σ}

/-- Asking a registered service for an instance is an operation of the registry. -/
theorem after_access {registry : Registry σ} {g : Registration σ} {service : String}
    (h : registry.Consistent) (hget : registry.get? service = some g) (account region : String) :
    registry.after (.access g.number account region) =
      (registry.instanceOf g account region).1 := by
  have hknown := h.registration?_of_get? hget
  rw [Registry.after, Registry.perform_access hknown]

/-- The registry of an admission is what the access leaves that it makes. -/
theorem Admits.registry_accessed {a : Admission σ} (hadmits : e.Admits r a)
    (h : e.registry.Consistent) : e.registry.after
      (.access a.registration.number e.config.account a.region) = a.registry := by
  rw [after_access h hadmits.registered, hadmits.instanced]

/-- A new state of an instance is one that a handler leaves. -/
theorem after_call {registry : Registry σ} {i : Instance σ}
    (hi : i ∈ registry.instances) (state : σ) (request : ServiceRequest) :
    registry.after (.call i.id (fun _ _ => (state, .panic)) request) =
      registry.setState i.id state := by
  cases hfound : registry.instances.find? (·.id == i.id) with
  | none =>
    have hother := List.find?_eq_none.mp hfound i hi
    simp at hother
  | some j =>
    have hid : j.id = i.id := by simpa using List.find?_some hfound
    simp only [Registry.after, Registry.perform, hfound, Registry.runOwn, hid]

/-- What a dispatch does to the registry, operations of it do that register nothing. -/
theorem exists_run_of_dispatch (h : e.registry.Consistent) (r : IncomingRequest) :
    ∃ ops, (e.dispatch r).1.registry = e.registry.run ops ∧ ∀ d, .register d ∉ ops := by
  have hleaves := e.leaves_dispatch r
  generalize (e.dispatch r).1.registry = registry at hleaves
  cases hleaves with
  | stopped unaddressed => exact ⟨[], rfl, by simp⟩
  | @failed g _ _ addressed unadmitted access =>
    refine ⟨[.access g.number e.config.account g.descriptor.scope.preferred], ?_, by simp⟩
    have hafter := after_access h addressed.registered e.config.account
      g.descriptor.scope.preferred
    rw [access] at hafter
    exact hafter.symm
  | @admitted a admits =>
    exact ⟨[.access a.registration.number e.config.account a.region],
      (admits.registry_accessed h).symm, by simp⟩
  | @moved a admits state =>
    refine ⟨[.access a.registration.number e.config.account a.region,
      .call a.target.id (fun _ _ => (state, .panic)) (a.request e r)], ?_, by simp⟩
    have hcall := after_call admits.target_mem.1 state (a.request e r)
    rw [Registry.run, List.foldl_cons, admits.registry_accessed h, List.foldl_cons, hcall,
      List.foldl_nil]
  | @reset a admits resets =>
    refine ⟨[.access a.registration.number e.config.account a.region, .resetAll], ?_, by simp⟩
    rw [Registry.run, List.foldl_cons, admits.registry_accessed h]
    rfl

/-- What an operation does to the index and the registry. -/
inductive Performed (e : Emulator σ) : Operation σ → Emulator σ → Prop where
  /-- A service is registered: the registry gets it, and the index its patterns. -/
  | service {d : ServiceDescriptor σ} {patterns : List UrlPattern}
      (compiled : d.urlBases.mapM (UrlPattern.compile? d.name) = .ok patterns) :
      Performed e (.registerService d)
        { e with registry := e.registry.register d, index := e.index.extend patterns }
  /-- The index gets one pattern. -/
  | pattern {service written : String} {p : UrlPattern}
      (compiled : UrlPattern.compile? service written = .ok p) :
      Performed e (.registerPattern service written) { e with index := e.index.extend [p] }
  /-- The index is kept, and the registry is worked on. -/
  | other {op : Operation σ} {next : Emulator σ} (calls : List (Registry.Operation σ))
      (config : next.config = e.config) (index : next.index = e.index)
      (registry : next.registry = e.registry.run calls)
      (asked : ∀ d, .register d ∈ calls → op.Registers d) : Performed e op next

/-- What keeps the settings, the index and the registry is of the last kind. -/
theorem Performed.kept (config : next.config = e.config) (index : next.index = e.index)
    (registry : next.registry = e.registry) : e.Performed op next :=
  .other [] config index registry nofun

/-- Every operation is of one of the three kinds. -/
theorem performed_after (h : e.registry.Consistent) (op : Operation σ) :
    e.Performed op (e.after op) := by
  cases op with
  | registerService d =>
    cases hregister : e.registerService d with
    | error fault =>
      rw [after, hregister]
      exact .kept rfl rfl rfl
    | ok next =>
      obtain ⟨patterns, hcompiled, hnext⟩ := Fallible.bind_eq_ok.mp hregister
      obtain rfl := Except.ok.inj hnext
      rw [after, hregister]
      exact .service hcompiled
  | registerPattern service written =>
    cases hregister : e.index.register service written with
    | error fault =>
      rw [after, hregister]
      exact .kept rfl rfl rfl
    | ok index =>
      obtain ⟨p, hcompiled, rfl⟩ := Fallible.map_eq_ok.mp hregister
      rw [after, hregister]
      exact .pattern hcompiled
  | onRegistry op =>
    refine .other [op] rfl rfl rfl fun d hd => .inr ?_
    rw [List.mem_singleton.mp hd]
  | onPipeline op => exact .kept rfl rfl rfl
  | loadExtensions clocks contents priority =>
    cases hload : e.loadExtensions clocks contents priority with
    | error fault =>
      rw [after, hload]
      exact .kept rfl rfl rfl
    | ok loaded =>
      obtain ⟨_, -, hnext⟩ := Fallible.bind_eq_ok.mp hload
      obtain rfl := Except.ok.inj hnext
      rw [after, hload]
      exact .kept rfl rfl rfl
  | dispatch r =>
    obtain ⟨calls, hcalls, hnone⟩ := exists_run_of_dispatch h r
    have hkept := Kept.dispatch e r
    exact .other calls hkept.config hkept.index hcalls fun d hd => absurd hd (hnone d)
  | registerResetHook name => exact .kept rfl rfl rfl
  | reset => exact .other [.resetAll] rfl rfl rfl (by simp)
  | setIntercepting on => exact .kept rfl rfl rfl

/-- An operation does to the registry what operations of the registry do. Those register only
what it is asked to register. -/
theorem exists_run_of_after (h : e.registry.Consistent) (op : Operation σ) :
    ∃ calls, (e.after op).registry = e.registry.run calls ∧
      ∀ d, .register d ∈ calls → op.Registers d := by
  have hperformed := performed_after h op
  generalize e.after op = next at hperformed
  cases hperformed with
  | @service d patterns compiled =>
    refine ⟨[.register d], rfl, ?_⟩
    intro d' hd
    cases List.mem_singleton.mp hd
    exact .inl rfl
  | pattern compiled => exact ⟨[], rfl, nofun⟩
  | other calls config index registry asked => exact ⟨calls, registry, asked⟩

/-- So does a run. -/
theorem exists_registry_run (h : e.registry.Consistent) (ops : List (Operation σ)) :
    ∃ calls, (e.run ops).registry = e.registry.run calls ∧
      ∀ d, .register d ∈ calls → ∃ op ∈ ops, op.Registers d := by
  induction ops generalizing e with
  | nil => exact ⟨[], rfl, nofun⟩
  | cons op ops ih =>
    obtain ⟨first, hfirst, hasked⟩ := exists_run_of_after h op
    have hafter : (e.after op).registry.Consistent := by
      rw [hfirst]
      exact h.run first
    obtain ⟨later, hlater, hasked'⟩ := ih hafter
    refine ⟨first ++ later, ?_, ?_⟩
    · calc (e.run (op :: ops)).registry
          = (e.after op).registry.run later := hlater
        _ = e.registry.run (first ++ later) := by rw [hfirst, Registry.run_append]
    · intro d hd
      rcases List.mem_append.mp hd with hd | hd
      · exact ⟨op, List.mem_cons_self, hasked d hd⟩
      · obtain ⟨op', hop', hregisters⟩ := hasked' d hd
        exact ⟨op', List.mem_cons_of_mem _ hop', hregisters⟩

/-- Every run leaves a consistent registry consistent. -/
theorem consistent_run (h : e.registry.Consistent) (ops : List (Operation σ)) :
    (e.run ops).registry.Consistent := by
  obtain ⟨calls, hcalls, -⟩ := exists_registry_run h ops
  rw [hcalls]
  exact h.run calls

/-- An operation adds to the index at its end, if at all. -/
theorem exists_extend_of_after (h : e.registry.Consistent) (op : Operation σ) :
    ∃ patterns, (e.after op).index = e.index.extend patterns := by
  have hperformed := performed_after h op
  generalize e.after op = next at hperformed
  cases hperformed with
  | @service _ patterns compiled => exact ⟨patterns, rfl⟩
  | @pattern _ _ p compiled => exact ⟨[p], rfl⟩
  | other calls config index registry asked =>
    refine ⟨[], ?_⟩
    rw [index, UrlIndex.extend, List.append_nil]

/-- A run adds to the index at its end, if at all. -/
theorem exists_index_run (h : e.registry.Consistent) (ops : List (Operation σ)) :
    ∃ patterns, (e.run ops).index = e.index.extend patterns := by
  induction ops generalizing e with
  | nil =>
    refine ⟨[], ?_⟩
    rw [UrlIndex.extend, List.append_nil]
    rfl
  | cons op ops ih =>
    obtain ⟨first, hfirst⟩ := exists_extend_of_after h op
    obtain ⟨later, hlater⟩ := ih (consistent_run h [op])
    refine ⟨first ++ later, ?_⟩
    calc (e.run (op :: ops)).index
        = (e.after op).index.extend later := hlater
      _ = e.index.extend (first ++ later) := by
        rw [hfirst]
        simp only [UrlIndex.extend, List.append_assoc]

/-- The settings are those that the emulator was made with. -/
theorem config_run (h : e.registry.Consistent) (ops : List (Operation σ)) :
    (e.run ops).config = e.config := by
  induction ops generalizing e with
  | nil => rfl
  | cons op ops ih =>
    have hfirst : (e.after op).config = e.config := by
      have hperformed := performed_after h op
      generalize e.after op = next at hperformed
      cases hperformed with
      | service compiled => rfl
      | pattern compiled => rfl
      | other calls config index registry asked => exact config
    calc (e.run (op :: ops)).config
        = (e.after op).config := ih (consistent_run h [op])
      _ = e.config := hfirst

end Emulator

end CloudEmulator
