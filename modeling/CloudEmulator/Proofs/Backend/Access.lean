import CloudEmulator.Backend.Registry
import Mathlib.Data.List.Basic

/-!
# Access to instances

What asking a registration for an instance can do: refuse the region, find the
instance, construct it, or fail to. Instances are told apart by their keys.
-/

namespace CloudEmulator

/-- The region that the dispatcher uses belongs to every scope. -/
theorem RegionScope.contains_preferred (scope : RegionScope) :
    scope.contains scope.preferred = true := by
  unfold preferred
  split
  · assumption
  · cases scope <;> simp [contains]

/-- What an instance is for: a registration, an account and a region. -/
def Instance.key (i : Instance σ) : Nat × String × String :=
  (i.registration, i.account, i.region)

/-- The instance as it was constructed. Two views of one object agree in this,
whatever its state has become. -/
def Instance.asBuilt (i : Instance σ) : Instance σ :=
  { i with state := i.backend.state }

/-- An instance serves what it is for. -/
theorem Instance.serves_iff {number : Nat} {account region : String} {i : Instance σ} :
    i.serves number account region = true ↔ i.key = (number, account, region) := by
  simp [serves, key, and_assoc]

namespace Registration

variable {σ : Type}

/-- Counting a call keeps the name. -/
theorem name_comp_countAttempt (counted : Nat) :
    (name ∘ countAttempt counted : Registration σ → String) = name := by
  funext s
  simp only [Function.comp, countAttempt]
  split <;> rfl

/-- Counting a call keeps the number. -/
theorem number_comp_countAttempt (counted : Nat) :
    (number ∘ countAttempt counted : Registration σ → Nat) = number := by
  funext s
  simp only [Function.comp, countAttempt]
  split <;> rfl

/-- Counting a call keeps what the service is. -/
theorem descriptor_countAttempt (counted : Nat) (s : Registration σ) :
    (s.countAttempt counted).descriptor = s.descriptor := by
  unfold countAttempt
  split <;> rfl

end Registration

namespace Registry

variable {σ : Type} {registry : Registry σ} {s : Registration σ} {number : Nat}
  {account region : String}

/-- The keys of all instances, in the order of construction. -/
def keys (registry : Registry σ) : List (Nat × String × String) :=
  registry.instances.map Instance.key

/-- The objects that were ever constructed. -/
def objects (registry : Registry σ) : List (Instance σ) :=
  registry.instances.map Instance.asBuilt

/-- The keys are those of the objects. -/
theorem keys_eq_objects (registry : Registry σ) :
    registry.keys = registry.objects.map Instance.key := by
  simp [keys, objects, Function.comp_def, Instance.asBuilt, Instance.key]

/-- How often the factory of a registration has been called. -/
def attempts (registry : Registry σ) (number : Nat) : Nat :=
  ((registry.registration? number).map (·.attempts)).getD 0

/-- An instance that is found is there, under the key that was asked for. -/
theorem mem_of_find? {i : Instance σ} (h : registry.find? s account region = some i) :
    i ∈ registry.instances ∧ i.key = (s.number, account, region) :=
  ⟨List.mem_of_find?_eq_some h, Instance.serves_iff.mp (List.find?_some h)⟩

/-- No instance is found exactly where no instance has the key. -/
theorem find?_eq_none_iff :
    registry.find? s account region = none ↔ (s.number, account, region) ∉ registry.keys := by
  simp only [find?, List.find?_eq_none, keys, List.mem_map, not_exists, not_and]
  exact forall₂_congr fun i _ => not_congr Instance.serves_iff

/-- A registration is found under its own name. -/
theorem name_of_get? {service : String} (h : registry.get? service = some s) :
    s.name = service := by
  simpa using List.find?_some h

/-- A registration that is found has the number that was asked for. -/
theorem number_of_registration? (h : registry.registration? number = some s) :
    s.number = number := by
  simpa using List.find?_some h

/-- What an access to an instance of a registration can do. -/
inductive Accessed (registry : Registry σ) (s : Registration σ) (account region : String) :
    Registry σ × Except RegistryError (Instance σ) → Prop where
  | refused (outside : s.descriptor.scope.contains region = false) :
      Accessed registry s account region (registry, .error (.unknownRegion s.name region))
  | found {i : Instance σ} (inside : s.descriptor.scope.contains region = true)
      (present : registry.find? s account region = some i) :
      Accessed registry s account region (registry, .ok i)
  | failed {source : ConstructionFault} (inside : s.descriptor.scope.contains region = true)
      (absent : registry.find? s account region = none)
      (call : s.descriptor.factory (s.attempts + 1) region account = .error source) :
      Accessed registry s account region
        (registry.countAttempt s.number, .error (.construction s.name account region source))
  | built {backend : Backend σ} {i : Instance σ}
      (inside : s.descriptor.scope.contains region = true)
      (absent : registry.find? s account region = none)
      (call : s.descriptor.factory (s.attempts + 1) region account = .ok backend)
      (new : i = ⟨registry.instances.length, s.number, account, region, backend,
        backend.state⟩) :
      Accessed registry s account region
        ({ registry.countAttempt s.number with instances := registry.instances ++ [i] }, .ok i)

/-- Every access is of one of the four kinds. -/
theorem instanceOf_accessed (registry : Registry σ) (s : Registration σ)
    (account region : String) :
    Accessed registry s account region (registry.instanceOf s account region) := by
  unfold instanceOf
  split
  · next hinside =>
    cases hfind : registry.find? s account region with
    | some i => exact .found hinside hfind
    | none =>
      unfold construct
      cases hcall : s.descriptor.factory (s.attempts + 1) region account with
      | error source =>
        exact .failed hinside hfind hcall
      | ok backend =>
        exact .built hinside hfind hcall rfl
  · next houtside => exact .refused (by simpa using houtside)

/-- An access that is known to end in some way is of a kind that ends so. -/
theorem accessed_of_eq {outcome : Registry σ × Except RegistryError (Instance σ)}
    (h : registry.instanceOf s account region = outcome) :
    Accessed registry s account region outcome := by
  rw [← h]
  exact instanceOf_accessed registry s account region

/-- In the preferred region, an access fails exactly when there is no instance and the
factory fails. -/
theorem instanceOf_preferred_eq_error_iff {next : Registry σ} {fault : RegistryError} :
    registry.instanceOf s account s.descriptor.scope.preferred = (next, .error fault) ↔
      ∃ source, registry.find? s account s.descriptor.scope.preferred = none ∧
        s.descriptor.factory (s.attempts + 1) s.descriptor.scope.preferred account =
          .error source ∧
        next = registry.countAttempt s.number ∧
        fault = .construction s.name account s.descriptor.scope.preferred source := by
  have hinside := s.descriptor.scope.contains_preferred
  constructor
  · intro h
    cases accessed_of_eq h with
    | refused outside => cases hinside.symm.trans outside
    | failed inside absent call => exact ⟨_, absent, call, rfl, rfl⟩
  · rintro ⟨source, habsent, hcall, rfl, rfl⟩
    simp [instanceOf, hinside, habsent, construct, hcall]

/-- There is an instance, or the factory gives one now. -/
def Constructible (registry : Registry σ) (s : Registration σ) (account region : String) : Prop :=
  registry.find? s account region ≠ none ∨
    ∃ backend, s.descriptor.factory (s.attempts + 1) region account = .ok backend

/-- In the preferred region, an access gets an instance that can be constructed. -/
theorem Constructible.instanceOf_preferred
    (h : registry.Constructible s account s.descriptor.scope.preferred) :
    ∃ next i, registry.instanceOf s account s.descriptor.scope.preferred = (next, .ok i) := by
  rcases hinstance : registry.instanceOf s account s.descriptor.scope.preferred
    with ⟨next, fault | i⟩
  · obtain ⟨source, habsent, hcall, -, -⟩ := instanceOf_preferred_eq_error_iff.mp hinstance
    rcases h with hpresent | ⟨backend, hbackend⟩
    · exact absurd habsent hpresent
    · cases hcall.symm.trans hbackend
  · exact ⟨next, i, rfl⟩

/-- Counting a call keeps the registrations, and raises the count of one of them. -/
theorem registration?_countAttempt (registry : Registry σ) (counted number : Nat) :
    (registry.countAttempt counted).registration? number =
      (registry.registration? number).map (Registration.countAttempt counted) := by
  have hnumber : (fun s : Registration σ => s.number == number) ∘
      Registration.countAttempt counted = fun s => s.number == number :=
    congrArg (fun field s => field s == number) (Registration.number_comp_countAttempt counted)
  simp only [registration?, known, countAttempt, ← List.map_append, List.find?_map, hnumber]

/-- Counting a call keeps the registrations under their names. -/
theorem get?_countAttempt (registry : Registry σ) (counted : Nat) (service : String) :
    (registry.countAttempt counted).get? service =
      (registry.get? service).map (Registration.countAttempt counted) := by
  have hname : (fun s : Registration σ => s.name == service) ∘
      Registration.countAttempt counted = fun s => s.name == service :=
    congrArg (fun field s => field s == service) (Registration.name_comp_countAttempt counted)
  simp only [get?, countAttempt, List.find?_map, hname]

/-- A counted call of a known registration is one call more. -/
theorem attempts_countAttempt (h : registry.registration? number = some s) :
    (registry.countAttempt number).attempts number = registry.attempts number + 1 := by
  have hnumber := number_of_registration? h
  simp [attempts, registration?_countAttempt, h, Registration.countAttempt, hnumber]

/-- Counting a call changes no list of keys. -/
theorem materialized_countAttempt (registry : Registry σ) (counted : Nat) :
    (registry.countAttempt counted).materialized = registry.materialized := by
  unfold materialized
  simp only [countAttempt, List.flatMap_map]
  refine List.flatMap_congr fun s _ => ?_
  unfold Registration.countAttempt
  split <;> rfl

end Registry

end CloudEmulator
