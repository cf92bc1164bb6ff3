import CloudEmulator.Proofs.Backend.ObjectIdentity
import Mathlib.Logic.Function.Basic

/-!
# The faces of services

Requests see one instance of a service: the one in the preferred region, or the one that
the factory gives when it is first asked for. An access changes no such face, the work of
a handler changes one, and a reset renews them all, provided that the backends keep their
contract.
-/

namespace CloudEmulator

variable {σ : Type}

namespace Backend

/-- A state in which an instance can be: the fresh one, and whatever a handler of its routes
makes of such a state. -/
inductive Reaches (b : Backend σ) : σ → Prop where
  | fresh : Reaches b b.state
  | handled {state : σ} {route : Route (Handler σ)}
      {run : σ → ServiceRequest → σ × HandlerResult} (before : Reaches b state)
      (declared : route ∈ b.routes.routes) (own : route.handler = .own run)
      (request : ServiceRequest) : Reaches b (run state request).1

/-- The contract of a backend: a reset leads from every state in which an instance can be
to that of a fresh one. -/
def Renews (b : Backend σ) : Prop :=
  ∀ state, b.Reaches state → b.reset state = b.state

end Backend

/-- The factory of the service never fails. -/
def ServiceDescriptor.Builds (d : ServiceDescriptor σ) : Prop :=
  ∀ calls account region, d.scope.contains region = true →
    ∃ b, d.factory (calls + 1) region account = .ok b

/-- The contract of a backend, for fresh instances: a reset leaves them as they are. -/
def ServiceDescriptor.KeepsFresh (d : ServiceDescriptor σ) : Prop :=
  ∀ calls account region b, d.scope.contains region = true →
    d.factory (calls + 1) region account = .ok b → b.reset b.state = b.state

/-- The factory of the service never fails, and gives backends that keep their contract. -/
def ServiceDescriptor.Renews (d : ServiceDescriptor σ) : Prop :=
  ∀ calls account region, d.scope.contains region = true →
    ∃ b, d.factory (calls + 1) region account = .ok b ∧ b.Renews

namespace ServiceDescriptor.Renews

variable {d : ServiceDescriptor σ}

/-- A service that keeps the contract can be constructed. -/
theorem builds (h : d.Renews) : d.Builds := by
  intro calls account region hinside
  obtain ⟨b, hcall, -⟩ := h calls account region hinside
  exact ⟨b, hcall⟩

/-- A fresh instance is among those for which the contract is kept. -/
theorem keepsFresh (h : d.Renews) : d.KeepsFresh := by
  intro calls account region b hinside hcall
  obtain ⟨c, hgiven, hrenews⟩ := h calls account region hinside
  obtain rfl := Except.ok.inj (hcall.symm.trans hgiven)
  exact hrenews b.state .fresh

end ServiceDescriptor.Renews

/-- What requests see of a service: an instance in a region. -/
structure Face (σ : Type) where
  region : String
  backend : Backend σ
  state : σ

/-- The face with the state of a fresh instance. -/
def Face.renewed (f : Face σ) : Face σ :=
  { f with state := f.backend.state }

/-- The face that an instance is. -/
def Instance.face (i : Instance σ) : Face σ :=
  ⟨i.region, i.backend, i.state⟩

namespace Instance

/-- The instance, with a new state if it is the one of that number. -/
def assigned (id : Nat) (state : σ) (i : Instance σ) : Instance σ :=
  if i.id == id then { i with state } else i

/-- The instance, reset if its registration is among some. -/
def resetAmong (p : Nat → Bool) (i : Instance σ) : Instance σ :=
  if p i.registration then { i with state := i.backend.reset i.state } else i

/-- A new state is not part of the object. -/
theorem assigned_asBuilt (id : Nat) (state : σ) (i : Instance σ) :
    (i.assigned id state).asBuilt = i.asBuilt := by
  unfold assigned
  split <;> rfl

/-- A reset does not change the object. -/
theorem resetAmong_asBuilt (p : Nat → Bool) (i : Instance σ) :
    (i.resetAmong p).asBuilt = i.asBuilt := by
  unfold resetAmong
  split <;> rfl

end Instance

namespace Registry

variable {registry next : Registry σ} {g s : Registration σ} {i : Instance σ}
  {account service : String}

/-- What requests see of a registration: its instance in the preferred region, or the one
that its factory would give now. -/
def faceOf? (registry : Registry σ) (account : String) (g : Registration σ) : Option (Face σ) :=
  let region := g.descriptor.scope.preferred
  match registry.find? g account region with
  | some i => some i.face
  | none => (g.descriptor.factory (g.attempts + 1) region account).toOption.map fun b =>
      ⟨region, b, b.state⟩

/-- What requests see of a service, if it is registered. -/
def face? (registry : Registry σ) (account service : String) : Option (Face σ) :=
  (registry.get? service).bind (registry.faceOf? account)

/-- The number is that of a registration that was not replaced. -/
def isCurrent (registry : Registry σ) (number : Nat) : Bool :=
  registry.registrations.any (·.number == number)

/-- An instance of a service that is registered. Instances of registrations that were
replaced are not seen any more. -/
def Active (registry : Registry σ) (i : Instance σ) : Prop :=
  i ∈ registry.instances ∧ registry.isCurrent i.registration = true

/-- What is kept along with the registry, so that a reset can renew it: the registered
services keep the contract, and their instances are in states in which they can be. -/
structure Renewable (registry : Registry σ) : Prop where
  consistent : Consistent registry
  services : ∀ g ∈ registry.registrations, g.descriptor.Renews
  instances : ∀ i, registry.Active i → i.backend.Renews ∧ i.backend.Reaches i.state

/-- The face of an instance that is found. -/
theorem faceOf?_of_find? (h : registry.find? g account g.descriptor.scope.preferred = some i) :
    registry.faceOf? account g = some i.face := by
  unfold faceOf?
  simp only [h]

/-- The face of a registration without an instance. -/
theorem faceOf?_of_absent {backend : Backend σ}
    (h : registry.find? g account g.descriptor.scope.preferred = none)
    (hcall : g.descriptor.factory (g.attempts + 1) g.descriptor.scope.preferred account =
      .ok backend) :
    registry.faceOf? account g =
      some ⟨g.descriptor.scope.preferred, backend, backend.state⟩ := by
  unfold faceOf?
  simp only [h, hcall]
  rfl

/-- A registration that has the same instance or none shows the same face. -/
theorem faceOf?_congr
    (h : next.find? g account g.descriptor.scope.preferred =
      registry.find? g account g.descriptor.scope.preferred) :
    next.faceOf? account g = registry.faceOf? account g := by
  unfold faceOf?
  simp only [h]

/-- The face of a service that is registered. -/
theorem face?_of_get? (h : registry.get? service = some g) :
    registry.face? account service = registry.faceOf? account g := by
  rw [face?, h, Option.bind_some]

/-- A name that leads to no registration has no face. -/
theorem face?_of_unregistered (h : registry.get? service = none) :
    registry.face? account service = none := by
  rw [face?, h, Option.bind_none]

/-- Names lead to one registration if they lead to registrations of one number. -/
theorem Consistent.registration_eq (h : Consistent registry) {other : String}
    (hget : registry.get? service = some g) (hother : registry.get? other = some s)
    (hnumber : s.number = g.number) : s = g := by
  have hg := h.registration?_of_get? hget
  have hs := h.registration?_of_get? hother
  rw [hnumber, hg] at hs
  exact (Option.some.inj hs).symm

/-- The registry once the factory of a registration gave an instance. -/
def joinedBy (registry : Registry σ) (g : Registration σ) (i : Instance σ) : Registry σ :=
  { registry.countAttempt g.number with instances := registry.instances ++ [i] }

/-- An instance that joins is found under a key that had none. -/
theorem find?_joinedBy_self {region : String} (hnumber : s.number = g.number)
    (habsent : registry.find? g account region = none)
    (hkey : i.key = (g.number, account, region)) :
    (registry.joinedBy g i).find? s account region = some i := by
  unfold find? joinedBy at *
  rw [hnumber, List.find?_append, habsent, List.find?_cons_of_pos (Instance.serves_iff.mpr hkey)]
  rfl

/-- For another registration nothing has joined. -/
theorem find?_joinedBy_of_ne {region : String} (hnumber : s.number ≠ i.registration) :
    (registry.joinedBy g i).find? s account region = registry.find? s account region := by
  have hother : ¬ i.serves s.number account region = true := by
    rw [Instance.serves_iff]
    intro hkey
    exact hnumber (congrArg Prod.fst hkey).symm
  unfold find? joinedBy
  rw [List.find?_append, List.find?_cons_of_neg hother, List.find?_nil, Option.or_none]

/-- A construction changes no face: what the factory would have given is there now. -/
theorem Consistent.face?_joinedBy (h : Consistent registry)
    (hget : registry.get? service = some g)
    (habsent : registry.find? g account g.descriptor.scope.preferred = none)
    (hface : registry.faceOf? account g = some i.face)
    (hkey : i.key = (g.number, account, g.descriptor.scope.preferred)) (other : String) :
    (registry.joinedBy g i).face? account other = registry.face? account other := by
  have hregistration : i.registration = g.number := congrArg Prod.fst hkey
  have hcount : (registry.joinedBy g i).get? other =
      (registry.get? other).map (Registration.countAttempt g.number) :=
    registry.get?_countAttempt g.number other
  unfold face?
  rw [hcount]
  cases hother : registry.get? other with
  | none => rfl
  | some s =>
    rw [Option.map_some, Option.bind_some, Option.bind_some]
    by_cases hnumber : s.number = g.number
    · obtain rfl := h.registration_eq hget hother hnumber
      rw [hface]
      refine faceOf?_of_find? ?_
      rw [Registration.descriptor_countAttempt]
      exact find?_joinedBy_self (congrFun (Registration.number_comp_countAttempt _) s) habsent hkey
    · have huncounted : s.countAttempt g.number = s := by
        simp [Registration.countAttempt, hnumber]
      rw [huncounted]
      exact faceOf?_congr (find?_joinedBy_of_ne (hregistration ▸ hnumber))

/-- The service has the instance: it is the one that its next request gets. -/
def Holds (registry : Registry σ) (account service : String) (i : Instance σ) : Prop :=
  ∃ g, registry.get? service = some g ∧
    registry.find? g account g.descriptor.scope.preferred = some i

/-- The face of a service that has an instance. -/
theorem Holds.face?_eq (h : registry.Holds account service i) :
    registry.face? account service = some i.face := by
  obtain ⟨g, hget, hfind⟩ := h
  rw [face?_of_get? hget, faceOf?_of_find? hfind]

/-- The instance of a service is active. -/
theorem Holds.active (h : registry.Holds account service i) : registry.Active i := by
  obtain ⟨g, hget, hfind⟩ := h
  obtain ⟨hi, hkey⟩ := mem_of_find? hfind
  have hnumber : i.registration = g.number := congrArg Prod.fst hkey
  refine ⟨hi, List.any_eq_true.mpr ⟨g, List.mem_of_find?_eq_some hget, ?_⟩⟩
  rw [hnumber, beq_self_eq_true]

/-- Counting a call replaces no registration. -/
theorem isCurrent_countAttempt (registry : Registry σ) (counted : Nat) :
    (registry.countAttempt counted).isCurrent = registry.isCurrent := by
  funext number
  have hnumber (g : Registration σ) : (g.countAttempt counted).number = g.number :=
    congrFun (Registration.number_comp_countAttempt counted) g
  simp only [isCurrent, countAttempt, List.any_map, Function.comp_def, hnumber]

/-- An access that gets an instance gets the one for its account and region. -/
theorem key_of_instanceOf {region : String}
    (haccess : registry.instanceOf g account region = (next, .ok i)) :
    i.key = (g.number, account, region) := by
  cases accessed_of_eq haccess with
  | found inside present => exact (mem_of_find? present).2
  | built inside absent call new =>
    rw [new]
    rfl

/-- An access to the preferred region changes no face, and the service has the instance
then. -/
theorem Consistent.face?_instanceOf (h : Consistent registry)
    (hget : registry.get? service = some g)
    (haccess : registry.instanceOf g account g.descriptor.scope.preferred = (next, .ok i)) :
    next.face? account = registry.face? account ∧ next.Holds account service i := by
  have hkey := key_of_instanceOf haccess
  cases accessed_of_eq haccess with
  | found inside present => exact ⟨rfl, g, hget, present⟩
  | built inside absent call new =>
    have hface : registry.faceOf? account g = some i.face := by
      rw [faceOf?_of_absent absent call, new]
      rfl
    refine ⟨funext (h.face?_joinedBy hget absent hface hkey), g.countAttempt g.number, ?_, ?_⟩
    · have hcount := registry.get?_countAttempt g.number service
      rw [hget] at hcount
      exact hcount
    · rw [Registration.descriptor_countAttempt]
      exact find?_joinedBy_self (congrFun (Registration.number_comp_countAttempt _) g) absent hkey

/-- The registry with its instances changed. -/
def mapInstances (registry : Registry σ) (change : Instance σ → Instance σ) : Registry σ :=
  { registry with instances := registry.instances.map change }

section Changes

variable {change : Instance σ → Instance σ} (hbuilt : ∀ i, (change i).asBuilt = i.asBuilt)
include hbuilt

/-- Changes that keep the objects leave a registry consistent. -/
theorem Consistent.mapInstances (h : Consistent registry) :
    Consistent (registry.mapInstances change) :=
  h.of_eq rfl rfl rfl (registry.objects_map change hbuilt)

/-- The changed instance is found where the instance was. -/
theorem find?_mapInstances (registry : Registry σ) (g : Registration σ)
    (account region : String) :
    (registry.mapInstances change).find? g account region =
      (registry.find? g account region).map change := by
  have hserves : Instance.serves g.number account region ∘ change =
      Instance.serves g.number account region := by
    funext i
    have hkey : (change i).asBuilt.key = i.asBuilt.key := by rw [hbuilt]
    rw [Function.comp_apply, Bool.eq_iff_iff, Instance.serves_iff, Instance.serves_iff]
    exact Eq.congr_left hkey
  unfold find? Registry.mapInstances
  rw [List.find?_map, hserves]

/-- A service has the changed instance if it had the instance. -/
theorem Holds.mapInstances (h : registry.Holds account service i) :
    (registry.mapInstances change).Holds account service (change i) := by
  obtain ⟨g, hget, hfind⟩ := h
  refine ⟨g, hget, ?_⟩
  rw [find?_mapInstances hbuilt, hfind, Option.map_some]

/-- Changes of instances show in no face without an instance. -/
theorem face?_mapInstances_of_absent (hget : registry.get? service = some g)
    (habsent : registry.find? g account g.descriptor.scope.preferred = none) :
    (registry.mapInstances change).face? account service = registry.face? account service := by
  have hchanged : (registry.mapInstances change).get? service = some g := hget
  rw [face?_of_get? hget, face?_of_get? hchanged]
  refine faceOf?_congr ?_
  rw [find?_mapInstances hbuilt, habsent, Option.map_none]

end Changes

/-- A reset of all services resets the instances of the registrations that were not replaced. -/
theorem resetAll_eq (registry : Registry σ) :
    registry.resetAll.1 = registry.mapInstances (Instance.resetAmong registry.isCurrent) := rfl

/-- A reset counts the instances of registered services, as many as there are keys. -/
theorem resetAll_count (registry : Registry σ) :
    registry.resetAll.2 = registry.materialized.length := by
  have hkeys : ∀ g, (registry.keysOf g).length = (registry.instancesOf g).length := by
    intro g
    rw [keysOf, List.length_mergeSort, List.length_map]
  calc registry.resetAll.2
      = (registry.registrations.map fun g => (registry.instancesOf g).length).sum :=
        List.sum_eq_foldl.symm
    _ = registry.materialized.length := by
      simp only [materialized, List.length_flatMap, List.length_map, hkeys]

/-- A registration has no two instances for one account and region. -/
theorem Consistent.nodup_keysOf (h : Consistent registry) (g : Registration σ) :
    (registry.keysOf g).Nodup := by
  have hkeys : ((registry.instancesOf g).map Instance.key).Nodup :=
    h.keys.sublist (List.filter_sublist.map Instance.key)
  have hpairs : ((registry.instancesOf g).map fun i => (i.account, i.region)).Nodup := by
    refine List.Nodup.map_on ?_ hkeys.of_map
    intro i hi j hj hpair
    obtain ⟨-, hinumber⟩ := List.mem_filter.mp hi
    obtain ⟨-, hjnumber⟩ := List.mem_filter.mp hj
    rw [beq_iff_eq] at hinumber hjnumber
    exact List.inj_on_of_nodup_map hkeys hi hj (Prod.ext (hinumber.trans hjnumber.symm) hpair)
  exact (List.mergeSort_perm _ _).nodup_iff.mpr hpairs

/-- No two instances of registered services are told by one key. -/
theorem Consistent.nodup_materialized (h : Consistent registry) :
    registry.materialized.Nodup := by
  refine List.nodup_flatMap.mpr ⟨?_, h.ascending.imp ?_⟩
  · intro g _
    refine (h.nodup_keysOf g).map ?_
    rintro ⟨account, region⟩ ⟨account', region'⟩ heq
    cases heq
    rfl
  · intro g s hlt
    refine List.disjoint_left.mpr ?_
    intro key hg hs
    obtain ⟨_, -, rfl⟩ := List.mem_map.mp hg
    obtain ⟨_, -, heq⟩ := List.mem_map.mp hs
    have hname : s.name = g.name := congrArg BackendKey.service heq
    exact String.ne_of_lt hlt hname.symm

/-- A service is not registered, or it has an instance, or it has a registration without
one. -/
theorem face?_cases (registry : Registry σ) (account service : String) :
    registry.get? service = none ∨ (∃ i, registry.Holds account service i) ∨
      ∃ g, registry.get? service = some g ∧
        registry.find? g account g.descriptor.scope.preferred = none := by
  cases hget : registry.get? service with
  | none => exact .inl rfl
  | some g =>
    right
    cases hfind : registry.find? g account g.descriptor.scope.preferred with
    | none => exact .inr ⟨g, rfl, hfind⟩
    | some i => exact .inl ⟨i, g, hget, hfind⟩

/-- Faces of fresh instances are as they were built. -/
theorem face?_map_renewed (hfresh : ∀ i, registry.Active i → i.state = i.backend.state)
    (account service : String) :
    (registry.face? account service).map Face.renewed = registry.face? account service := by
  rcases registry.face?_cases account service with hnone | ⟨i, hholds⟩ | ⟨g, hget, habsent⟩
  · rw [face?_of_unregistered hnone, Option.map_none]
  · have hface : i.face.renewed = i.face := by
      rw [Face.renewed, Instance.face, hfresh i hholds.active]
    rw [hholds.face?_eq, Option.map_some, hface]
  · rw [face?_of_get? hget]
    unfold faceOf?
    simp only [habsent]
    cases g.descriptor.factory (g.attempts + 1) g.descriptor.scope.preferred account <;> rfl

/-- The preferred region is in the scope, so a service that can be constructed gives an
instance there. -/
theorem exists_instanceOf (registry : Registry σ) (h : g.descriptor.Builds) (account : String) :
    ∃ next i, registry.instanceOf g account g.descriptor.scope.preferred = (next, .ok i) :=
  Constructible.instanceOf_preferred
    (.inr (h g.attempts account g.descriptor.scope.preferred g.descriptor.scope.contains_preferred))

/-- What a reset makes of the faces, told by a change of faces: of an instance, what its
backend makes of its state, and of a service without an instance, nothing. -/
theorem face?_resetAll_of {change : Face σ → Face σ}
    (hheld : ∀ i, registry.Holds account service i →
      change i.face = { i.face with state := i.backend.reset i.state })
    (hfresh : ∀ g b, registry.get? service = some g →
      g.descriptor.factory (g.attempts + 1) g.descriptor.scope.preferred account = .ok b →
      change ⟨g.descriptor.scope.preferred, b, b.state⟩ =
        ⟨g.descriptor.scope.preferred, b, b.state⟩) :
    registry.resetAll.1.face? account service = (registry.face? account service).map change := by
  rw [resetAll_eq]
  have hbuilt : ∀ i : Instance σ, (i.resetAmong registry.isCurrent).asBuilt = i.asBuilt :=
    Instance.resetAmong_asBuilt registry.isCurrent
  rcases registry.face?_cases account service with hnone | ⟨i, hholds⟩ | ⟨g, hget, habsent⟩
  · have hchanged : (registry.mapInstances (Instance.resetAmong registry.isCurrent)).get? service =
        none := hnone
    rw [face?_of_unregistered hnone, face?_of_unregistered hchanged, Option.map_none]
  · rw [(hholds.mapInstances hbuilt).face?_eq, hholds.face?_eq, Option.map_some, hheld i hholds]
    rw [Instance.resetAmong, if_pos hholds.active.2]
    rfl
  · rw [face?_mapInstances_of_absent hbuilt hget habsent, face?_of_get? hget]
    unfold faceOf?
    simp only [habsent]
    cases hcall : g.descriptor.factory (g.attempts + 1) g.descriptor.scope.preferred account with
    | error fault => rfl
    | ok b => exact (congrArg some (hfresh g b hget hcall)).symm

/-- Instances of one number are one. -/
theorem Consistent.instance_eq (h : Consistent registry) {j : Instance σ}
    (hi : i ∈ registry.instances) (hj : j ∈ registry.instances) (hid : i.id = j.id) : i = j := by
  have hobject : i.asBuilt = j.asBuilt :=
    h.object_eq (List.mem_map_of_mem hi) (List.mem_map_of_mem hj) hid
  have hkey : i.asBuilt.key = j.asBuilt.key := by rw [hobject]
  exact List.inj_on_of_nodup_map h.keys hi hj hkey

/-- Services have different instances. -/
theorem Consistent.service_eq (h : Consistent registry) {other : String} {j : Instance σ}
    (hholds : registry.Holds account service i) (hother : registry.Holds account other j)
    (hid : j.id = i.id) : other = service := by
  obtain ⟨g, hget, hfind⟩ := hholds
  obtain ⟨s, hsget, hsfind⟩ := hother
  obtain ⟨hi, hikey⟩ := mem_of_find? hfind
  obtain ⟨hj, hjkey⟩ := mem_of_find? hsfind
  obtain rfl := h.instance_eq hj hi hid
  have hnumber : s.number = g.number := congrArg Prod.fst (hjkey.symm.trans hikey)
  obtain rfl := h.registration_eq hget hsget hnumber
  exact (name_of_get? hsget).symm.trans (name_of_get? hget)

/-- A new state of the instance of a service is a new state of its face, and of no other. -/
theorem Consistent.face?_setState (h : Consistent registry)
    (hholds : registry.Holds account service i) (state : σ) :
    (registry.setState i.id state).face? account =
      Function.update (registry.face? account) service (some { i.face with state }) := by
  have hset : registry.setState i.id state =
      registry.mapInstances (Instance.assigned i.id state) := rfl
  have hbuilt := Instance.assigned_asBuilt i.id state
  rw [hset]
  funext other
  by_cases hsame : other = service
  · rw [hsame, Function.update_self, (hholds.mapInstances hbuilt).face?_eq]
    simp [Instance.assigned, Instance.face]
  · rw [Function.update_of_ne hsame]
    rcases registry.face?_cases account other with hnone | ⟨j, hother⟩ | ⟨s, hget, habsent⟩
    · have hchanged : (registry.mapInstances (Instance.assigned i.id state)).get? other = none :=
        hnone
      rw [face?_of_unregistered hnone, face?_of_unregistered hchanged]
    · have hunchanged : j.assigned i.id state = j := by
        have hid : j.id ≠ i.id := fun hid => hsame (h.service_eq hholds hother hid)
        simp [Instance.assigned, hid]
      rw [(hother.mapInstances hbuilt).face?_eq, hother.face?_eq, hunchanged]
    · exact face?_mapInstances_of_absent hbuilt hget habsent

/-- Every instance belongs to a registration that there was. -/
def Owned (registry : Registry σ) : Prop :=
  ∀ i ∈ registry.instances, i.registration < registry.registered

/-- After every operation, instances belong to registrations that there were. -/
theorem Consistent.owned_after (h : Consistent registry) (howned : registry.Owned)
    (op : Operation σ) : (registry.after op).Owned := by
  have hperformed := registry.perform_performed op
  unfold Registry.after
  generalize registry.perform op = outcome at hperformed ⊢
  cases hperformed with
  | registered descriptor =>
    intro i hi
    exact Nat.lt_succ_of_lt (howned i hi)
  | accessed known access =>
    cases access with
    | refused _ => exact howned
    | found _ _ => exact howned
    | failed _ _ _ => exact howned
    | built inside absent call new =>
      intro i hi
      rcases List.mem_append.mp hi with hold | hnew
      · exact howned i hold
      · obtain rfl := List.mem_singleton.mp hnew
        rw [new]
        exact h.numbered _ (List.mem_of_find?_eq_some known)
  | touched instances objects _ _ _ =>
    intro i hi
    have hobject : i.asBuilt ∈ registry.objects := by
      rw [← objects]
      exact List.mem_map_of_mem hi
    obtain ⟨j, hj, hsame⟩ := List.mem_map.mp hobject
    have hregistration : j.asBuilt.registration = i.asBuilt.registration := by rw [hsame]
    calc i.registration = j.registration := hregistration.symm
      _ < registry.registered := howned j hj

/-- After every run, instances belong to registrations that there were. -/
theorem Consistent.owned_run (h : Consistent registry) (howned : registry.Owned)
    (ops : List (Operation σ)) : (registry.run ops).Owned := by
  induction ops generalizing registry with
  | nil => exact howned
  | cons op ops ih => exact ih (h.after op) (h.owned_after howned op)

/-- A registration makes no other instance active, as its number is new. -/
theorem Owned.active_of_register (howned : registry.Owned) {d : ServiceDescriptor σ}
    (h : (registry.register d).Active i) : registry.Active i := by
  obtain ⟨hi, hcurrent⟩ := h
  obtain ⟨g, hg, hnumber⟩ := List.any_eq_true.mp hcurrent
  rw [beq_iff_eq] at hnumber
  refine ⟨hi, ?_⟩
  rcases mem_place hg with rfl | hold
  · have hlt : i.registration < registry.registered := howned i hi
    exact absurd hnumber (Nat.ne_of_gt hlt)
  · exact List.any_eq_true.mpr ⟨g, hold, beq_iff_eq.mpr hnumber⟩

namespace Renewable

/-- The services keep the contract however often their factories were called. -/
theorem services_countAttempt (h : registry.Renewable) (number : Nat) :
    ∀ s ∈ (registry.countAttempt number).registrations, s.descriptor.Renews := by
  intro s hs
  obtain ⟨t, ht, rfl⟩ := List.mem_map.mp hs
  rw [Registration.descriptor_countAttempt]
  exact h.services t ht

/-- A registry that can be renewed can be renewed after an access to the preferred region. -/
theorem instanceOf (h : registry.Renewable) (hget : registry.get? service = some g)
    (haccess : registry.instanceOf g account g.descriptor.scope.preferred = (next, .ok i)) :
    next.Renewable := by
  have haccessed := accessed_of_eq haccess
  have hconsistent := h.consistent.accessed haccessed
  cases haccessed with
  | found inside present => exact h
  | built inside absent call new =>
    refine ⟨hconsistent, h.services_countAttempt g.number, ?_⟩
    rintro j ⟨hj, hcurrent⟩
    rcases List.mem_append.mp hj with hold | hnew
    · have hbefore : registry.isCurrent j.registration = true := by
        rw [← registry.isCurrent_countAttempt g.number]
        exact hcurrent
      exact h.instances j ⟨hold, hbefore⟩
    · obtain rfl := List.mem_singleton.mp hnew
      obtain ⟨b, hcall, hrenews⟩ := h.services g (List.mem_of_find?_eq_some hget) g.attempts
        account g.descriptor.scope.preferred inside
      obtain rfl := Except.ok.inj (call.symm.trans hcall)
      rw [new]
      exact ⟨hrenews, .fresh⟩

/-- A registry that can be renewed can be renewed after a change that leaves every active
instance in a state in which it can be. -/
theorem mapInstances (h : registry.Renewable) {change : Instance σ → Instance σ}
    (hbuilt : ∀ i, (change i).asBuilt = i.asBuilt)
    (hreaches : ∀ i, registry.Active i → i.backend.Reaches (change i).state) :
    (registry.mapInstances change).Renewable := by
  refine ⟨h.consistent.mapInstances hbuilt, h.services, ?_⟩
  rintro j ⟨hj, hcurrent⟩
  obtain ⟨i, hi, rfl⟩ := List.mem_map.mp hj
  have hbackend : (change i).asBuilt.backend = i.asBuilt.backend := by rw [hbuilt]
  have hregistration : (change i).asBuilt.registration = i.asBuilt.registration := by rw [hbuilt]
  change (change i).backend = i.backend at hbackend
  change (change i).registration = i.registration at hregistration
  rw [hregistration] at hcurrent
  rw [hbackend]
  exact ⟨(h.instances i ⟨hi, hcurrent⟩).1, hreaches i ⟨hi, hcurrent⟩⟩

/-- A registry that can be renewed can be renewed after a new state of one instance, if the
instance can be in it. -/
theorem setState (h : registry.Renewable) (hi : i ∈ registry.instances) {state : σ}
    (hreaches : i.backend.Reaches state) : (registry.setState i.id state).Renewable := by
  refine h.mapInstances (Instance.assigned_asBuilt i.id state) ?_
  intro j hj
  by_cases hid : j.id = i.id
  · obtain rfl := h.consistent.instance_eq hj.1 hi hid
    simpa [Instance.assigned] using hreaches
  · simpa [Instance.assigned, hid] using (h.instances j hj).2

/-- A reset leaves the fresh state of an active instance. -/
theorem reset_state (h : registry.Renewable) (hactive : registry.Active i) :
    i.backend.reset i.state = i.backend.state := by
  obtain ⟨hrenews, hreaches⟩ := h.instances i hactive
  exact hrenews i.state hreaches

/-- A registry that can be renewed can be renewed after a reset. -/
theorem resetAll (h : registry.Renewable) : registry.resetAll.1.Renewable := by
  rw [resetAll_eq]
  refine h.mapInstances (Instance.resetAmong_asBuilt _) ?_
  intro i hi
  unfold Instance.resetAmong
  split
  · rw [h.reset_state hi]
    exact .fresh
  · exact (h.instances i hi).2

/-- A reset renews the faces of all services. -/
theorem face?_resetAll (h : registry.Renewable) (account : String) :
    registry.resetAll.1.face? account =
      fun service => (registry.face? account service).map Face.renewed := by
  funext service
  refine face?_resetAll_of ?_ fun g b _ _ => rfl
  intro i hholds
  rw [h.reset_state hholds.active]
  rfl

end Renewable

end Registry

end CloudEmulator
