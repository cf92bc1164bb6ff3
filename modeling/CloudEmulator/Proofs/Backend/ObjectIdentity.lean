import CloudEmulator.Proofs.Backend.Runs

/-!
# The identity of instances

Along every run, a registration has at most one object for an account and a
region. It stays the same object until the end, and no other registration, account
or region is given it.
-/

namespace CloudEmulator

namespace Registry

variable {σ : Type} {registry : Registry σ} {s : Registration σ} {number : Nat}
  {account region : String}

/-- What a registry promises about the instances it gives out, whatever is done
with it later. -/
structure InstanceLaws (registry : Registry σ) : Prop where
  /-- A registration that gave an object for an account and a region gives that
  object for them ever after. -/
  same_object : ∀ {number : Nat} {account region : String} {next : Registry σ} {i : Instance σ},
    registry.perform (.access number account region) = (next, .object i) →
    ∀ ops, ∃ j, (next.run ops).perform (.access number account region) =
      (next.run ops, .object j) ∧ j.asBuilt = i.asBuilt
  /-- So does the name of a service, until the service is registered anew. -/
  same_named_object : ∀ {service account region : String} {next : Registry σ} {i : Instance σ},
    registry.instanceFor service account region = (next, .ok i) →
    ∀ ops, (∀ descriptor, .register descriptor ∈ ops → descriptor.name ≠ service) →
    ∃ j, (next.run ops).instanceFor service account region = (next.run ops, .ok j) ∧
      j.asBuilt = i.asBuilt
  /-- An object is given for one registration, one account and one region only. -/
  distinct : ∀ {number number' : Nat} {account account' region region' : String}
    {next : Registry σ} {i j : Instance σ},
    registry.perform (.access number account region) = (next, .object i) →
    ∀ ops, (next.run ops).reply (.access number' account' region') = .object j → j.id = i.id →
    number' = number ∧ account' = account ∧ region' = region
  /-- Registering a service gives a registration that was not known before, and that
  its name leads to. -/
  new_registration : ∀ {descriptor : ServiceDescriptor σ} {number : Nat},
    registry.reply (.register descriptor) = .registration number →
    registry.registration? number = none ∧
      (registry.after (.register descriptor)).get? descriptor.name = some ⟨descriptor, number, 0⟩
  /-- The name of a service leads to one registration, until the service is registered
  anew. -/
  same_registration : ∀ {service : String} {number : Nat},
    registry.reply (.get service) = .registration number →
    ∀ ops, (∀ descriptor, .register descriptor ∈ ops → descriptor.name ≠ service) →
    (registry.run ops).reply (.get service) = .registration number
  /-- A registration is one of the same service ever after. -/
  same_service : ∀ {number : Nat} {s : Registration σ}, registry.registration? number = some s →
    ∀ ops, ∃ t, (registry.run ops).registration? number = some t ∧ t.descriptor = s.descriptor
  /-- No factory succeeds twice for one registration, account and region. -/
  built_once : ∀ ops, (registry.successes ops).Nodup
  /-- A region outside of the scope is refused, without a call of the factory. -/
  out_of_scope : ∀ {number : Nat} {s : Registration σ} {region : String},
    registry.registration? number = some s → s.descriptor.scope.contains region = false →
    ∀ account, registry.perform (.access number account region) =
        (registry, .error (.unknownRegion s.name region)) ∧
      registry.factoryResult? (.access number account region) = none
  /-- A failed construction changes no instance and no list of keys. -/
  failed : ∀ {number : Nat} {account region : String} {next : Registry σ}
    {named account' region' : String} {source : ConstructionFault},
    registry.perform (.access number account region) =
      (next, .error (.construction named account' region' source)) →
    next.instances = registry.instances ∧ next.materialized = registry.materialized
  /-- The next access after a failed construction calls the factory again. -/
  retried : ∀ {number : Nat} {account region : String} {next : Registry σ}
    {named account' region' : String} {source : ConstructionFault},
    registry.perform (.access number account region) =
      (next, .error (.construction named account' region' source)) →
    ∀ ops, .access number account region ∉ ops →
    ((next.run ops).factoryResult? (.access number account region)).isSome = true

/-- The registry that an operation leaves. -/
theorem after_eq {op : Operation σ} {next : Registry σ} {reply : Reply σ}
    (h : registry.perform op = (next, reply)) : registry.after op = next :=
  congrArg Prod.fst h

/-- The registry that an operation leaves is consistent. -/
theorem Consistent.next (h : Consistent registry) {op : Operation σ} {next : Registry σ}
    {reply : Reply σ} (hop : registry.perform op = (next, reply)) : Consistent next := by
  rw [← after_eq hop]
  exact h.after op

/-- Getting a service replies with the number of its registration. -/
theorem reply_get_iff {service : String} :
    registry.reply (.get service) = .registration number ↔
      (registry.get? service).map (·.number) = some number := by
  cases hget : registry.get? service with
  | none => simp [reply, perform, hget]
  | some s => simp [reply, perform, hget]

/-- An access to a known registration does what asking it for an instance does. -/
theorem perform_access (h : registry.registration? number = some s) (account region : String) :
    registry.perform (.access number account region) =
      ((registry.instanceOf s account region).1,
        .ofAccess (registry.instanceOf s account region).2) := by
  simp [perform, instanceAt, h]

/-- An access that gets an object is one to a known registration, inside of its
scope, and the object is there under that key. -/
theorem object_of_access {next : Registry σ} {i : Instance σ}
    (h : registry.perform (.access number account region) = (next, .object i)) :
    ∃ s, registry.registration? number = some s ∧ s.descriptor.scope.contains region = true ∧
      i.asBuilt ∈ next.objects ∧ i.key = (number, account, region) := by
  cases hknown : registry.registration? number with
  | none => simp [perform, instanceAt, hknown] at h
  | some s =>
    obtain rfl := number_of_registration? hknown
    rw [perform_access hknown] at h
    have haccess := instanceOf_accessed registry s account region
    generalize registry.instanceOf s account region = outcome at haccess h
    refine ⟨s, rfl, ?_⟩
    cases haccess with
    | refused _ => cases h
    | found inside present =>
      cases h
      obtain ⟨hmem, hkey⟩ := mem_of_find? present
      exact ⟨inside, List.mem_map_of_mem hmem, hkey⟩
    | failed _ _ _ => cases h
    | built inside _ _ new =>
      cases h
      refine ⟨inside, ?_, by rw [new]; rfl⟩
      exact List.mem_map_of_mem (List.mem_append_right _ List.mem_cons_self)

/-- An object that is there under a key is what the next access to the key gets. -/
theorem Consistent.access_of_object (h : Consistent registry)
    (hknown : registry.registration? number = some s)
    (hinside : s.descriptor.scope.contains region = true) {o : Instance σ}
    (ho : o ∈ registry.objects) (hkey : o.key = (number, account, region)) :
    ∃ j, registry.instanceOf s account region = (registry, .ok j) ∧ j.asBuilt = o := by
  obtain rfl := number_of_registration? hknown
  obtain ⟨j, hj, rfl⟩ := List.mem_map.mp ho
  have hfound : registry.find? s account region = some j := h.find?_eq_some_iff.mpr ⟨hj, hkey⟩
  exact ⟨j, by simp [instanceOf, hinside, hfound], rfl⟩

/-- A registration that gave an object gives it after every run, also when it was
replaced. -/
theorem Consistent.same_object (h : Consistent registry) {next : Registry σ} {i : Instance σ}
    (haccess : registry.perform (.access number account region) = (next, .object i))
    (ops : List (Operation σ)) :
    ∃ t, (next.run ops).registration? number = some t ∧
      ∃ j, (next.run ops).instanceOf t account region = (next.run ops, .ok j) ∧
        j.asBuilt = i.asBuilt := by
  obtain ⟨s, hknown, hinside, hobject, hkey⟩ := object_of_access haccess
  obtain ⟨u, hu, hudescriptor⟩ := h.registration?_after hknown (.access number account region)
  rw [after_eq haccess] at hu
  obtain ⟨t, ht, htdescriptor⟩ := (h.next haccess).registration?_run hu ops
  refine ⟨t, ht, ((h.next haccess).run ops).access_of_object ht ?_ ?_ hkey⟩
  · rw [htdescriptor, hudescriptor]
    exact hinside
  · exact (next.objects_run ops).subset hobject

/-- The objects of a consistent registry are told apart by their numbers. -/
theorem Consistent.object_eq (h : Consistent registry) {o p : Instance σ}
    (ho : o ∈ registry.objects) (hp : p ∈ registry.objects) (hid : o.id = p.id) : o = p := by
  have hnodup : (registry.objects.map (·.id)).Nodup := h.ids ▸ List.nodup_range
  exact List.inj_on_of_nodup_map hnodup ho hp hid

/-- A construction that failed was of a key that no instance has, and did no more
than count the call of the factory. -/
theorem failed_access {next : Registry σ} {service account' region' : String}
    {source : ConstructionFault}
    (h : registry.perform (.access number account region) =
      (next, .error (.construction service account' region' source))) :
    ∃ s, registry.registration? number = some s ∧ s.descriptor.scope.contains region = true ∧
      (number, account, region) ∉ registry.keys ∧ next = registry.countAttempt number := by
  cases hknown : registry.registration? number with
  | none => simp [perform, instanceAt, hknown] at h
  | some s =>
    obtain rfl := number_of_registration? hknown
    rw [perform_access hknown] at h
    have haccess := instanceOf_accessed registry s account region
    generalize registry.instanceOf s account region = outcome at haccess h
    refine ⟨s, rfl, ?_⟩
    cases haccess with
    | refused _ => cases h
    | found _ _ => cases h
    | failed inside absent _ =>
      cases h
      exact ⟨inside, find?_eq_none_iff.mp absent, rfl⟩
    | built _ _ _ _ => cases h

/-- A service that gave an object by its name gives it by its name until it is
registered anew. -/
theorem Consistent.same_named_object (h : Consistent registry) {service : String}
    {next : Registry σ} {i : Instance σ}
    (haccess : registry.instanceFor service account region = (next, .ok i))
    {ops : List (Operation σ)}
    (hops : ∀ descriptor, .register descriptor ∈ ops → descriptor.name ≠ service) :
    ∃ j, (next.run ops).instanceFor service account region = (next.run ops, .ok j) ∧
      j.asBuilt = i.asBuilt := by
  cases hget : registry.get? service with
  | none => simp [instanceFor, hget] at haccess
  | some s =>
    have hinstance : registry.instanceOf s account region = (next, .ok i) := by
      simpa [instanceFor, hget] using haccess
    have hperform : registry.perform (.access s.number account region) = (next, .object i) := by
      rw [perform_access (h.registration?_of_get? hget), hinstance]
      rfl
    obtain ⟨t, ht, j, hj, hbuilt⟩ := h.same_object hperform ops
    -- The name still leads to the registration that gave the object.
    have hname : ((next.run ops).get? service).map (·.number) = some s.number := by
      have hother : ∀ descriptor, (.access s.number account region : Operation σ) =
          .register descriptor → descriptor.name ≠ service := nofun
      have hafter := registry.get?_after service hother
      rw [after_eq hperform, hget] at hafter
      rw [next.get?_run service hops, hafter]
      rfl
    obtain ⟨u, hu, hunumber⟩ := Option.map_eq_some_iff.mp hname
    have hut : u = t := by
      have hfound := ((h.next hperform).run ops).registration?_of_get? hu
      rw [hunumber, ht] at hfound
      exact (Option.some.inj hfound).symm
    refine ⟨j, ?_, hbuilt⟩
    rw [← hj, ← hut]
    simp [instanceFor, hu]

/-- A consistent registry keeps what it promises. -/
theorem Consistent.instanceLaws (h : Consistent registry) : InstanceLaws registry where
  same_object := by
    intro number account region next i haccess ops
    obtain ⟨t, ht, j, hj, hbuilt⟩ := h.same_object haccess ops
    refine ⟨j, ?_, hbuilt⟩
    rw [perform_access ht, hj]
    rfl
  same_named_object := fun haccess ops hops => h.same_named_object haccess hops
  distinct := by
    intro number number' account account' region region' next i j haccess ops hreply hid
    obtain ⟨s, hs, hinside, hi, hikey⟩ := object_of_access haccess
    obtain ⟨t, ht, htinside, hj, hjkey⟩ :=
      object_of_access (Prod.ext rfl hreply :
        (next.run ops).perform (.access number' account' region') = (_, .object j))
    have hthen := ((h.next haccess).run ops).after (.access number' account' region')
    have hi' : i.asBuilt ∈ ((next.run ops).after (.access number' account' region')).objects :=
      ((next.objects_run ops).trans ((next.run ops).objects_after _)).subset hi
    have hsame : j.asBuilt = i.asBuilt := hthen.object_eq hj hi' hid
    have hkey : (number', account', region') = (number, account, region) := by
      calc (number', account', region') = j.asBuilt.key := hjkey.symm
        _ = i.asBuilt.key := by rw [hsame]
        _ = (number, account, region) := hikey
    simpa using hkey
  new_registration := by
    intro descriptor number hreply
    cases hreply
    constructor
    · refine List.find?_eq_none.mpr fun s hs => ?_
      simpa using Nat.ne_of_lt (h.numbered s hs)
    · exact find?_place_self ⟨descriptor, registry.registered, 0⟩ registry.registrations
  same_registration := by
    intro service number hreply ops hops
    rw [reply_get_iff] at hreply ⊢
    rw [registry.get?_run service hops]
    exact hreply
  same_service := fun hknown ops => h.registration?_run hknown ops
  built_once := by
    intro ops
    have hkeys := (h.run ops).keys
    rw [keys_run] at hkeys
    exact (List.nodup_append.mp hkeys).2.1
  out_of_scope := by
    intro number s region hknown houtside account
    constructor
    · rw [perform_access hknown]
      simp [instanceOf, houtside, Reply.ofAccess]
    · rw [factoryResult?_access hknown]
      simp [houtside]
  failed := by
    intro number account region next named account' region' source haccess
    obtain ⟨s, -, -, -, rfl⟩ := failed_access haccess
    exact ⟨rfl, registry.materialized_countAttempt number⟩
  retried := by
    intro number account region next named account' region' source haccess ops hops
    obtain ⟨s, hknown, hinside, habsent, hcount⟩ := failed_access haccess
    obtain ⟨u, hu, hudescriptor⟩ := h.registration?_after hknown (.access number account region)
    rw [after_eq haccess] at hu
    obtain ⟨t, ht, htdescriptor⟩ := (h.next haccess).registration?_run hu ops
    have hstill : (number, account, region) ∉ (next.run ops).keys := by
      rw [keys_run]
      intro hmem
      rcases List.mem_append.mp hmem with hbefore | hlater
      · rw [hcount] at hbefore
        exact habsent hbefore
      · exact hops (mem_of_successes hlater)
    have hscope : t.descriptor.scope.contains region = true := by
      rw [htdescriptor, hudescriptor]
      exact hinside
    rw [factoryResult?_access ht, if_pos ⟨hscope, hstill⟩]
    rfl

/-- **Along every run from the empty registry, instances keep their identity: one
object for a registration, an account and a region, constructed once.** -/
theorem instanceLaws_run (ops : List (Operation σ)) :
    InstanceLaws (({} : Registry σ).run ops) :=
  (consistent_empty.run ops).instanceLaws

/-- A service whose factory fails when it is called for the first time. -/
def lateService : ServiceDescriptor Nat where
  name := "late"
  scope := .everywhere
  factory calls _ _ :=
    if calls == 1 then .error (.failed "too early") else .ok ⟨⟨[], []⟩, 0, id⟩

-- Each of the two registrations fails once and then keeps its object.
example : ({} : Registry Nat).successes
    [.register lateService, .access 0 "a" "global", .access 0 "a" "global",
      .register lateService, .access 1 "a" "global", .access 0 "a" "global",
      .access 1 "a" "global", .access 1 "a" "global"] =
    [(0, "a", "global"), (1, "a", "global")] := by
  cbv

end Registry

end CloudEmulator
