import CloudEmulator.Backend.Handler
import CloudEmulator.Backend.OperationCatalog
import CloudEmulator.Backend.RegionScope

/-!
# The registry of services

Services by name, and the instances of each by account and region. An instance is
constructed when it is first asked for; a failed construction leaves nothing
behind and is tried again the next time.
-/

namespace CloudEmulator

/-- What a service is. The factory gets the number of its call, the region and
the account. -/
structure ServiceDescriptor (σ : Type) where
  name : String
  scope : RegionScope
  urlBases : List String := []
  operations : List String := []
  factory : Nat → String → String → Except ConstructionFault (Backend σ)

/-- The registration of a service. Registrations are numbered, so that instances
of one that was replaced are not taken for those of the new one. -/
structure Registration (σ : Type) where
  descriptor : ServiceDescriptor σ
  number : Nat
  /-- How often the factory has been called. -/
  attempts : Nat := 0

/-- An instance of a service. Instances are numbered in the order of their
construction. -/
structure Instance (σ : Type) where
  id : Nat
  registration : Nat
  account : String
  region : String
  backend : Backend σ
  state : σ

/-- Names an instance from outside. -/
structure BackendKey where
  service : String
  account : String
  region : String
  deriving DecidableEq, Repr

/-- Why the registry has no instance to give. -/
inductive RegistryError where
  | unknownService (service : String)
  | unknownRegion (service region : String)
  | construction (service account region : String) (source : ConstructionFault)
  deriving DecidableEq, Repr

namespace RegistryError

/-- The error in words. -/
def message : RegistryError → String
  | unknownService service => "Unknown service: " ++ service
  | unknownRegion service region =>
    "Service '" ++ service ++ "' is not available in region '" ++ region ++ "'"
  | construction service account region source =>
    "Failed to construct " ++ service ++ " backend for account " ++ account ++ " in " ++ region ++
      ": " ++ source.message

end RegistryError

/-- The registrations by ascending name, and every instance ever constructed. -/
structure Registry (σ : Type) where
  registrations : List (Registration σ) := []
  /-- Registrations that were replaced; those who hold one can still use it. -/
  retired : List (Registration σ) := []
  instances : List (Instance σ) := []
  /-- The number of registrations so far. -/
  registered : Nat := 0

namespace Registration

/-- The name of the service. -/
def name (r : Registration σ) : String :=
  r.descriptor.name

/-- Count a call of the factory, if the registration is the one of that number. -/
def countAttempt (number : Nat) (r : Registration σ) : Registration σ :=
  if r.number == number then { r with attempts := r.attempts + 1 } else r

end Registration

namespace Instance

/-- The instance belongs to the registration and serves the account and region. -/
def serves (registration : Nat) (account region : String) (i : Instance σ) : Bool :=
  i.registration == registration && i.account == account && i.region == region

end Instance

namespace Registry

variable {σ : Type}

/-- Put a registration into its place by name, replacing one of that name. -/
def place (r : Registration σ) : List (Registration σ) → List (Registration σ)
  | [] => [r]
  | x :: rest =>
    if r.name == x.name then r :: rest
    else if r.name < x.name then r :: x :: rest
    else x :: place r rest

/-- Register a service. The instances of an earlier registration under its name
are no longer found. -/
def register (registry : Registry σ) (descriptor : ServiceDescriptor σ) : Registry σ :=
  { registry with
    registrations := place ⟨descriptor, registry.registered, 0⟩ registry.registrations
    retired := registry.retired ++ registry.registrations.filter (·.name == descriptor.name)
    registered := registry.registered + 1 }

/-- The registration of a service. -/
def get? (registry : Registry σ) (service : String) : Option (Registration σ) :=
  registry.registrations.find? (·.name == service)

/-- All registrations that there ever were. -/
def known (registry : Registry σ) : List (Registration σ) :=
  registry.registrations ++ registry.retired

/-- The registration of a number, whether it was replaced or not. -/
def registration? (registry : Registry σ) (number : Nat) : Option (Registration σ) :=
  registry.known.find? (·.number == number)

/-- The service is registered. -/
def contains (registry : Registry σ) (service : String) : Bool :=
  (registry.get? service).isSome

/-- The names of the services, ascending. -/
def services (registry : Registry σ) : List String :=
  registry.registrations.map (·.name)

/-- The instance of a registration for an account and a region. -/
def find? (registry : Registry σ) (r : Registration σ) (account region : String) :
    Option (Instance σ) :=
  registry.instances.find? (Instance.serves r.number account region)

/-- Count a call of the factory of a registration. -/
def countAttempt (registry : Registry σ) (number : Nat) : Registry σ :=
  { registry with
    registrations := registry.registrations.map (Registration.countAttempt number)
    retired := registry.retired.map (Registration.countAttempt number) }

/-- Call the factory for an account and a region. -/
def construct (registry : Registry σ) (r : Registration σ) (account region : String) :
    Registry σ × Except RegistryError (Instance σ) :=
  let registry := registry.countAttempt r.number
  match r.descriptor.factory (r.attempts + 1) region account with
  | .error source => (registry, .error (.construction r.name account region source))
  | .ok backend =>
    let built : Instance σ :=
      ⟨registry.instances.length, r.number, account, region, backend, backend.state⟩
    ({ registry with instances := registry.instances ++ [built] }, .ok built)

/-- The instance of a registration for an account and a region, constructed if it
is not there yet. A region outside of the scope has none. -/
def instanceOf (registry : Registry σ) (r : Registration σ) (account region : String) :
    Registry σ × Except RegistryError (Instance σ) :=
  if r.descriptor.scope.contains region then
    match registry.find? r account region with
    | some i => (registry, .ok i)
    | none => registry.construct r account region
  else (registry, .error (.unknownRegion r.name region))

/-- The instance of a service for an account and a region. -/
def instanceFor (registry : Registry σ) (service account region : String) :
    Registry σ × Except RegistryError (Instance σ) :=
  match registry.get? service with
  | none => (registry, .error (.unknownService service))
  | some r => registry.instanceOf r account region

/-- The instance of a registration that was given out before, by its number. -/
def instanceAt (registry : Registry σ) (number : Nat) (account region : String) :
    Option (Registry σ × Except RegistryError (Instance σ)) :=
  (registry.registration? number).map fun r => registry.instanceOf r account region

/-- Change the state of an instance. -/
def setState (registry : Registry σ) (id : Nat) (state : σ) : Registry σ :=
  { registry with
    instances := registry.instances.map fun i => if i.id == id then { i with state } else i }

/-- The instances of a registration, in the order of their construction. -/
def instancesOf (registry : Registry σ) (r : Registration σ) : List (Instance σ) :=
  registry.instances.filter (·.registration == r.number)

/-- Reset the instances whose registrations satisfy `p`. -/
def resetWhere (registry : Registry σ) (p : Nat → Bool) : Registry σ :=
  { registry with
    instances := registry.instances.map fun i =>
      if p i.registration then { i with state := i.backend.reset i.state } else i }

/-- Reset the instances of a registration: how many there are, and the registry. -/
def resetOf (registry : Registry σ) (r : Registration σ) : Registry σ × Nat :=
  (registry.resetWhere (· == r.number), (registry.instancesOf r).length)

/-- Reset the instances of all services: how many there are, and the registry. -/
def resetAll (registry : Registry σ) : Registry σ × Nat :=
  (registry.resetWhere fun n => registry.registrations.any (·.number == n),
    (registry.registrations.map fun r => (registry.instancesOf r).length).foldl (· + ·) 0)

/-- The order of accounts, and of the regions of one account. -/
def keyLe (a b : String × String) : Bool :=
  a.1 < b.1 || (a.1 == b.1 && a.2 ≤ b.2)

/-- The accounts and regions for which a registration has an instance. -/
def keysOf (registry : Registry σ) (r : Registration σ) : List (String × String) :=
  ((registry.instancesOf r).map fun i => (i.account, i.region)).mergeSort keyLe

/-- The keys of all instances of registered services, in order. -/
def materialized (registry : Registry σ) : List BackendKey :=
  registry.registrations.flatMap fun r =>
    (registry.keysOf r).map fun (account, region) => ⟨r.name, account, region⟩

/-- The catalog of all declared operations. -/
def catalog (registry : Registry σ) : OperationCatalog :=
  registry.registrations.foldl
    (fun catalog r => r.descriptor.operations.foldl (fun c o => c.insert r.name o) catalog) {}

/-- Run a handler of an instance that acts on its own state. -/
def runOwn (registry : Registry σ) (i : Instance σ)
    (run : σ → ServiceRequest → σ × HandlerResult) (request : ServiceRequest) :
    Registry σ × HandlerResult :=
  let (state, result) := run i.state request
  (registry.setState i.id state, result)

end Registry

end CloudEmulator
