import CloudEmulator.Proofs.Backend.Consistency
import Mathlib.Data.List.Infix

/-!
# Runs of the registry

What can be done with a registry and with the registrations and instances it gave
out, one operation after the other. What one operation does to the objects and
the registrations is carried over a run.
-/

namespace CloudEmulator

namespace Registry

/-- An operation. Registrations and instances are named by their numbers. -/
inductive Operation (σ : Type) where
  | register (descriptor : ServiceDescriptor σ)
  | get (service : String)
  /-- Ask a registration for an instance. -/
  | access (number : Nat) (account region : String)
  /-- Reset the instances of a registration. -/
  | reset (number : Nat)
  | resetAll
  /-- Have an instance handle a request. -/
  | call (id : Nat) (run : σ → ServiceRequest → σ × HandlerResult) (request : ServiceRequest)

/-- What an operation replies. -/
inductive Reply (σ : Type) where
  | registration (number : Nat)
  | object (i : Instance σ)
  | count (n : Nat)
  | result (r : HandlerResult)
  | error (e : RegistryError)
  /-- Nothing has the number that was named. -/
  | absent

/-- The reply to an access. -/
def Reply.ofAccess : Except RegistryError (Instance σ) → Reply σ
  | .ok i => .object i
  | .error e => .error e

variable {σ : Type} {registry : Registry σ} {s : Registration σ} {number : Nat}
  {account region : String}

/-- Do an operation. -/
def perform (registry : Registry σ) : Operation σ → Registry σ × Reply σ
  | .register descriptor => (registry.register descriptor, .registration registry.registered)
  | .get service =>
    match registry.get? service with
    | none => (registry, .error (.unknownService service))
    | some s => (registry, .registration s.number)
  | .access number account region =>
    match registry.instanceAt number account region with
    | none => (registry, .absent)
    | some (registry, answer) => (registry, .ofAccess answer)
  | .reset number =>
    match registry.registration? number with
    | none => (registry, .absent)
    | some s => ((registry.resetOf s).1, .count (registry.resetOf s).2)
  | .resetAll => (registry.resetAll.1, .count registry.resetAll.2)
  | .call id run request =>
    match registry.instances.find? (·.id == id) with
    | none => (registry, .absent)
    | some i => ((registry.runOwn i run request).1, .result (registry.runOwn i run request).2)

/-- The registry after an operation. -/
def after (registry : Registry σ) (op : Operation σ) : Registry σ :=
  (registry.perform op).1

/-- The reply to an operation. -/
def reply (registry : Registry σ) (op : Operation σ) : Reply σ :=
  (registry.perform op).2

/-- The registry after some operations. -/
def run (registry : Registry σ) (ops : List (Operation σ)) : Registry σ :=
  ops.foldl after registry

/-- What the factory of a registration gave in an operation, if the operation
called it. -/
def factoryResult? (registry : Registry σ) :
    Operation σ → Option (Except ConstructionFault (Backend σ))
  | .access number account region =>
    if registry.attempts number < (registry.after (.access number account region)).attempts number
    then (registry.registration? number).map fun s =>
      s.descriptor.factory (registry.attempts number + 1) region account
    else none
  | _ => none

/-- What an operation is an access to, if the factory succeeded in it. -/
def success? (registry : Registry σ) (op : Operation σ) : Option (Nat × String × String) :=
  match op, registry.factoryResult? op with
  | .access number account region, some (.ok _) => some (number, account, region)
  | _, _ => none

/-- The successful calls of factories in a run. -/
def successes (registry : Registry σ) : List (Operation σ) → List (Nat × String × String)
  | [] => []
  | op :: ops => (registry.success? op).toList ++ (registry.after op).successes ops

/-- The state of an instance is not part of the objects. -/
theorem objects_map (registry : Registry σ) (change : Instance σ → Instance σ)
    (hchange : ∀ i, (change i).asBuilt = i.asBuilt) :
    ({ registry with instances := registry.instances.map change } : Registry σ).objects =
      registry.objects := by
  simp only [objects, List.map_map]
  exact List.map_congr_left fun i _ => hchange i

/-- A reset keeps the objects. -/
theorem objects_resetWhere (registry : Registry σ) (p : Nat → Bool) :
    (registry.resetWhere p).objects = registry.objects := by
  refine registry.objects_map _ fun i => ?_
  split <;> rfl

/-- A handler keeps the objects. -/
theorem objects_runOwn (registry : Registry σ) (i : Instance σ)
    (run : σ → ServiceRequest → σ × HandlerResult) (request : ServiceRequest) :
    (registry.runOwn i run request).1.objects = registry.objects := by
  refine registry.objects_map _ fun j => ?_
  split <;> rfl

/-- What an operation does to a registry: it registers a service, accesses an
instance, or touches no more than the states of instances. -/
inductive Performed (registry : Registry σ) : Operation σ → Registry σ × Reply σ → Prop where
  | registered (descriptor : ServiceDescriptor σ) :
      Performed registry (.register descriptor)
        (registry.register descriptor, .registration registry.registered)
  | accessed {number : Nat} {account region : String} {s : Registration σ}
      {outcome : Registry σ × Except RegistryError (Instance σ)}
      (known : registry.registration? number = some s)
      (access : Accessed registry s account region outcome) :
      Performed registry (.access number account region) (outcome.1, .ofAccess outcome.2)
  | touched {op : Operation σ} {reply : Reply σ} (instances : List (Instance σ))
      (objects : ({ registry with instances } : Registry σ).objects = registry.objects)
      (unregistered : ∀ descriptor, op ≠ .register descriptor)
      (unanswered : ∀ i, reply ≠ .object i) (uncalled : registry.factoryResult? op = none) :
      Performed registry op ({ registry with instances }, reply)

/-- Every operation is of one of the three kinds. -/
theorem perform_performed (registry : Registry σ) (op : Operation σ) :
    Performed registry op (registry.perform op) := by
  cases op with
  | register descriptor => exact .registered descriptor
  | get service =>
    cases hget : registry.get? service with
    | none =>
      simp only [perform, hget]
      exact .touched registry.instances rfl nofun nofun rfl
    | some s =>
      simp only [perform, hget]
      exact .touched registry.instances rfl nofun nofun rfl
  | access number account region =>
    cases hknown : registry.registration? number with
    | none =>
      have huncalled : registry.factoryResult? (.access number account region) = none := by
        simp [factoryResult?, hknown]
      simp only [perform, instanceAt, hknown, Option.map_none]
      exact .touched registry.instances rfl nofun nofun huncalled
    | some s =>
      simp only [perform, instanceAt, hknown, Option.map_some]
      exact .accessed hknown (instanceOf_accessed registry s account region)
  | reset number =>
    cases hknown : registry.registration? number with
    | none =>
      simp only [perform, hknown]
      exact .touched registry.instances rfl nofun nofun rfl
    | some s =>
      simp only [perform, hknown]
      exact .touched _ (registry.objects_resetWhere (· == s.number)) nofun nofun rfl
  | resetAll =>
    let ofAny := fun n => registry.registrations.any (·.number == n)
    exact .touched _ (registry.objects_resetWhere ofAny) nofun nofun rfl
  | call id run request =>
    cases hfound : registry.instances.find? (·.id == id) with
    | none =>
      simp only [perform, hfound]
      exact .touched registry.instances rfl nofun nofun rfl
    | some i =>
      simp only [perform, hfound]
      exact .touched _ (registry.objects_runOwn i run request) nofun nofun rfl

/-- A changed list of instances with the same objects keeps the registry consistent. -/
theorem Consistent.touched (h : Consistent registry) {instances : List (Instance σ)}
    (hobjects : ({ registry with instances } : Registry σ).objects = registry.objects) :
    Consistent ({ registry with instances } : Registry σ) :=
  h.of_eq rfl rfl rfl hobjects

/-- Every operation keeps the registry consistent. -/
theorem Consistent.after (h : Consistent registry) (op : Operation σ) :
    Consistent (registry.after op) := by
  have hperformed := registry.perform_performed op
  unfold Registry.after
  generalize registry.perform op = outcome at hperformed ⊢
  cases hperformed with
  | registered descriptor => exact h.register descriptor
  | accessed known access => exact h.accessed access
  | touched instances objects unregistered unanswered uncalled => exact h.touched objects

/-- Every run keeps the registry consistent. -/
theorem Consistent.run (h : Consistent registry) (ops : List (Operation σ)) :
    Consistent (registry.run ops) := by
  induction ops generalizing registry with
  | nil => exact h
  | cons op ops ih => exact ih (h.after op)

/-- What an access finds or constructs is among the objects afterwards, and none
of the objects is lost. -/
theorem Accessed.objects {outcome : Registry σ × Except RegistryError (Instance σ)}
    (h : Accessed registry s account region outcome) :
    registry.objects <+: outcome.1.objects := by
  cases h with
  | refused _ => exact List.prefix_rfl
  | found _ _ => exact List.prefix_rfl
  | failed _ _ _ => exact List.prefix_rfl
  | built _ _ _ _ =>
    simp only [Registry.objects, List.map_append]
    exact List.prefix_append _ _

/-- No operation loses an object. -/
theorem objects_after (registry : Registry σ) (op : Operation σ) :
    registry.objects <+: (registry.after op).objects := by
  have hperformed := registry.perform_performed op
  unfold after
  generalize registry.perform op = outcome at hperformed ⊢
  cases hperformed with
  | registered descriptor => exact List.prefix_rfl
  | accessed known access => exact access.objects
  | touched instances objects unregistered unanswered uncalled =>
    rw [objects]

/-- No run loses an object. -/
theorem objects_run (registry : Registry σ) (ops : List (Operation σ)) :
    registry.objects <+: (registry.run ops).objects := by
  induction ops generalizing registry with
  | nil => exact List.prefix_rfl
  | cons op ops ih => exact (registry.objects_after op).trans (ih (registry.after op))

/-- A factory is called exactly by an access inside of the scope to a key that no
instance has. -/
theorem factoryResult?_access (h : registry.registration? number = some s)
    (account region : String) :
    registry.factoryResult? (.access number account region) =
      if s.descriptor.scope.contains region = true ∧ (number, account, region) ∉ registry.keys
      then some (s.descriptor.factory (s.attempts + 1) region account) else none := by
  obtain rfl := number_of_registration? h
  have hattempts : registry.attempts s.number = s.attempts := by simp [attempts, h]
  have hcount := attempts_countAttempt h
  have hafter : registry.after (.access s.number account region) =
      (registry.instanceOf s account region).1 := by
    simp [after, perform, instanceAt, h]
  have haccess := instanceOf_accessed registry s account region
  simp only [factoryResult?, h, Option.map_some, hattempts, hafter] at hcount ⊢
  generalize registry.instanceOf s account region = outcome at haccess ⊢
  cases haccess with
  | refused outside => simp [outside, hattempts]
  | found inside present =>
    have hmem : (s.number, account, region) ∈ registry.keys := by
      by_contra habsent
      rw [find?_eq_none_iff.mpr habsent] at present
      cases present
    simp [hmem, hattempts]
  | failed inside absent call =>
    simp [hcount, inside, find?_eq_none_iff.mp absent]
  | built inside absent call new =>
    have hsame : ∀ instances, ({ registry.countAttempt s.number with instances } :
        Registry σ).attempts s.number = s.attempts + 1 := fun _ => hcount
    simp [hsame, inside, find?_eq_none_iff.mp absent]

/-- The keys after an operation are those before it, and the one for which a
factory succeeded. -/
theorem keys_after (registry : Registry σ) (op : Operation σ) :
    (registry.after op).keys = registry.keys ++ (registry.success? op).toList := by
  have hperformed := registry.perform_performed op
  unfold after
  generalize registry.perform op = outcome at hperformed ⊢
  cases hperformed with
  | registered descriptor => exact (List.append_nil _).symm
  | @accessed number account region s outcome known access =>
    have hresult := factoryResult?_access known account region
    obtain rfl := number_of_registration? known
    cases access with
    | refused outside => simp [success?, hresult, outside]
    | found inside present =>
      obtain ⟨hmem, hkey⟩ := mem_of_find? present
      have hold : (s.number, account, region) ∈ registry.keys :=
        List.mem_map.mpr ⟨_, hmem, hkey⟩
      rw [if_neg (not_and_not_right.mpr fun _ => hold)] at hresult
      simp [success?, hresult]
    | failed inside absent call =>
      rw [if_pos ⟨inside, find?_eq_none_iff.mp absent⟩, call] at hresult
      simp [success?, hresult, keys, countAttempt]
    | built inside absent call new =>
      rw [if_pos ⟨inside, find?_eq_none_iff.mp absent⟩, call] at hresult
      simp [success?, hresult, keys, new, Instance.key]
  | touched instances objects unregistered unanswered uncalled =>
    have hnone : registry.success? op = none := by simp [success?, uncalled]
    rw [hnone, keys_eq_objects, objects, ← keys_eq_objects, Option.toList_none, List.append_nil]

/-- The keys after a run are those before it, and those for which a factory
succeeded. -/
theorem keys_run (registry : Registry σ) (ops : List (Operation σ)) :
    (registry.run ops).keys = registry.keys ++ registry.successes ops := by
  induction ops generalizing registry with
  | nil => exact (List.append_nil _).symm
  | cons op ops ih =>
    calc (registry.run (op :: ops)).keys
        = (registry.after op).keys ++ (registry.after op).successes ops := ih _
      _ = registry.keys ++ registry.successes (op :: ops) := by
        rw [keys_after, List.append_assoc]
        rfl

/-- A factory succeeds only for what is accessed. -/
theorem mem_of_success? {op : Operation σ}
    (h : registry.success? op = some (number, account, region)) :
    op = .access number account region := by
  unfold success? at h
  split at h
  · cases h
    rfl
  · cases h

/-- In a run, factories succeed only for what is accessed in it. -/
theorem mem_of_successes {ops : List (Operation σ)}
    (h : (number, account, region) ∈ registry.successes ops) :
    .access number account region ∈ ops := by
  induction ops generalizing registry with
  | nil => cases h
  | cons op ops ih =>
    rcases List.mem_append.mp h with hfirst | hlater
    · rw [mem_of_success? (Option.mem_toList.mp hfirst)]
      exact List.mem_cons_self
    · exact List.mem_cons_of_mem _ (ih hlater)

/-- A registration keeps its number and its service through every operation, also
when it is replaced. -/
theorem Consistent.registration?_after (h : Consistent registry)
    (hknown : registry.registration? number = some s) (op : Operation σ) :
    ∃ t, (registry.after op).registration? number = some t ∧ t.descriptor = s.descriptor := by
  have hcount : ∀ counted, ∃ t, (registry.countAttempt counted).registration? number = some t ∧
      t.descriptor = s.descriptor := fun counted =>
    ⟨s.countAttempt counted, by rw [registration?_countAttempt, hknown, Option.map_some],
      s.descriptor_countAttempt counted⟩
  have hperformed := registry.perform_performed op
  unfold Registry.after
  generalize registry.perform op = outcome at hperformed ⊢
  cases hperformed with
  | registered descriptor =>
    obtain ⟨hmem, hnumber⟩ := h.registration?_eq_some_iff.mp hknown
    have hstill := (h.known_register descriptor).mem_iff.mpr (List.mem_cons_of_mem _ hmem)
    exact ⟨s, (h.register descriptor).registration?_eq_some_iff.mpr ⟨hstill, hnumber⟩, rfl⟩
  | accessed known access =>
    cases access with
    | refused _ => exact ⟨s, hknown, rfl⟩
    | found _ _ => exact ⟨s, hknown, rfl⟩
    | failed _ _ _ => exact hcount _
    | built _ _ _ _ => exact hcount _
  | touched _ _ _ _ _ => exact ⟨s, hknown, rfl⟩

/-- A registration keeps its number and its service through every run. -/
theorem Consistent.registration?_run (h : Consistent registry)
    (hknown : registry.registration? number = some s) (ops : List (Operation σ)) :
    ∃ t, (registry.run ops).registration? number = some t ∧ t.descriptor = s.descriptor := by
  induction ops generalizing registry s with
  | nil => exact ⟨s, hknown, rfl⟩
  | cons op ops ih =>
    obtain ⟨t, ht, htdescriptor⟩ := h.registration?_after hknown op
    obtain ⟨u, hu, hudescriptor⟩ := ih (h.after op) ht
    exact ⟨u, hu, hudescriptor.trans htdescriptor⟩

/-- Only a registration of the service changes which registration its name leads to. -/
theorem get?_after (registry : Registry σ) (service : String) {op : Operation σ}
    (hop : ∀ descriptor, op = .register descriptor → descriptor.name ≠ service) :
    ((registry.after op).get? service).map (·.number) =
      (registry.get? service).map (·.number) := by
  have hcount : ∀ counted, ((registry.countAttempt counted).get? service).map (·.number) =
      (registry.get? service).map (·.number) := by
    intro counted
    rw [get?_countAttempt, Option.map_map]
    exact congrArg (fun field => (registry.get? service).map field)
      (Registration.number_comp_countAttempt counted)
  have hperformed := registry.perform_performed op
  unfold after
  generalize registry.perform op = outcome at hperformed ⊢
  cases hperformed with
  | registered descriptor =>
    have hname : (⟨descriptor, registry.registered, 0⟩ : Registration σ).name ≠ service :=
      hop descriptor rfl
    exact congrArg (Option.map _) (find?_place_of_ne hname registry.registrations)
  | accessed known access =>
    cases access with
    | refused _ => rfl
    | found _ _ => rfl
    | failed _ _ _ => exact hcount _
    | built _ _ _ _ => exact hcount _
  | touched _ _ _ _ _ => rfl

/-- Without a registration of the service, its name leads to the same registration
after a run. -/
theorem get?_run (registry : Registry σ) (service : String) {ops : List (Operation σ)}
    (hops : ∀ descriptor, .register descriptor ∈ ops → descriptor.name ≠ service) :
    ((registry.run ops).get? service).map (·.number) =
      (registry.get? service).map (·.number) := by
  induction ops generalizing registry with
  | nil => rfl
  | cons op ops ih =>
    calc ((registry.run (op :: ops)).get? service).map (·.number)
        = ((registry.after op).get? service).map (·.number) :=
          ih _ fun descriptor hmem => hops descriptor (List.mem_cons_of_mem _ hmem)
      _ = (registry.get? service).map (·.number) :=
          registry.get?_after service fun descriptor heq =>
            hops descriptor (heq ▸ List.mem_cons_self)

/-- It is of the same service then. -/
theorem Consistent.exists_get?_run (h : Consistent registry) {service : String}
    (hget : registry.get? service = some s) {ops : List (Operation σ)}
    (hops : ∀ descriptor, .register descriptor ∈ ops → descriptor.name ≠ service) :
    ∃ t, (registry.run ops).get? service = some t ∧ t.number = s.number ∧
      t.descriptor = s.descriptor := by
  have hnumber := registry.get?_run service hops
  rw [hget, Option.map_some] at hnumber
  obtain ⟨t, ht, hsame⟩ := Option.map_eq_some_iff.mp hnumber
  obtain ⟨u, hu, hdescriptor⟩ := h.registration?_run (h.registration?_of_get? hget) ops
  have hknown := (h.run ops).registration?_of_get? ht
  rw [hsame, hu] at hknown
  obtain rfl := Option.some.inj hknown
  exact ⟨u, ht, hsame, hdescriptor⟩

end Registry

end CloudEmulator
