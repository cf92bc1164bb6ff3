import CloudEmulator.Proofs.Backend.Faces

/-!
# Looking up instances

An instance is looked up by the number of its registration, its account and its region.
Asking for an instance, and the work of a handler on one, touch no look-up but the one
under the key of that instance. What is materialised are the keys of registered services
under which something is found.
-/

namespace CloudEmulator

variable {σ : Type}

/-- The registration as it was made, with no call of its factory counted. -/
def Registration.asMade (s : Registration σ) : Registration σ :=
  { s with attempts := 0 }

/-- Registrations that were made alike have the same descriptor and the same number. -/
theorem Registration.of_asMade {s t : Registration σ} (h : t.asMade = s.asMade) :
    t.descriptor = s.descriptor ∧ t.number = s.number := by
  have hdescriptor : t.asMade.descriptor = s.asMade.descriptor := by rw [h]
  have hnumber : t.asMade.number = s.asMade.number := by rw [h]
  exact ⟨hdescriptor, hnumber⟩

namespace Registry

variable {registry next last : Registry σ} {g s : Registration σ} {i : Instance σ}
  {account region service : String} {key : Nat × String × String}

/-- The same services are registered, and the same were replaced. All that may differ is how
often their factories were called. -/
structure SameServices (registry next : Registry σ) : Prop where
  registrations : next.registrations.map Registration.asMade =
    registry.registrations.map Registration.asMade
  retired : next.retired.map Registration.asMade = registry.retired.map Registration.asMade
  registered : next.registered = registry.registered

/-- Every look-up but that of one key finds the same instance in the same state, or nothing
as before. -/
def AgreesBut (registry next : Registry σ) (key : Nat × String × String) : Prop :=
  ∀ (s : Registration σ) (account region : String), (s.number, account, region) ≠ key →
    next.find? s account region = registry.find? s account region

/-- Where an instance was found, one is found still. -/
def KeepsFound (registry next : Registry σ) : Prop :=
  ∀ (s : Registration σ) (account region : String),
    (registry.find? s account region).isSome → (next.find? s account region).isSome

namespace SameServices

/-- A registry has the services it has. -/
theorem refl (registry : Registry σ) : SameServices registry registry :=
  ⟨rfl, rfl, rfl⟩

/-- Having the same services goes both ways. -/
theorem symm (h : SameServices registry next) : SameServices next registry :=
  ⟨h.registrations.symm, h.retired.symm, h.registered.symm⟩

/-- What is kept first and kept afterwards is kept. -/
theorem trans (h : SameServices registry next) (h' : SameServices next last) :
    SameServices registry last :=
  ⟨h'.registrations.trans h.registrations, h'.retired.trans h.retired,
    h'.registered.trans h.registered⟩

/-- A counted call of a factory leaves the services as they are. -/
theorem countAttempt (registry : Registry σ) (number : Nat) :
    SameServices registry (registry.countAttempt number) := by
  have hmade : Registration.asMade ∘ Registration.countAttempt number =
      (Registration.asMade : Registration σ → Registration σ) := by
    funext s
    simp only [Function.comp_apply, Registration.asMade, Registration.countAttempt]
    split <;> rfl
  constructor
  · rw [Registry.countAttempt, List.map_map, hmade]
  · rw [Registry.countAttempt, List.map_map, hmade]
  · rfl

/-- An access leaves the services as they are. -/
theorem accessed {outcome : Registry σ × Except RegistryError (Instance σ)}
    (h : Accessed registry s account region outcome) : SameServices registry outcome.1 := by
  cases h with
  | refused _ => exact refl registry
  | found _ _ => exact refl registry
  | failed _ _ _ => exact countAttempt registry s.number
  | built _ _ _ _ =>
    have hcounted := countAttempt registry s.number
    exact ⟨hcounted.registrations, hcounted.retired, hcounted.registered⟩

/-- Changed instances leave the services as they are. -/
theorem mapInstances (registry : Registry σ) (change : Instance σ → Instance σ) :
    SameServices registry (registry.mapInstances change) :=
  ⟨rfl, rfl, rfl⟩

/-- A service that is registered afterwards was registered before. -/
theorem exists_mem (h : SameServices registry next) (hs : s ∈ next.registrations) :
    ∃ t ∈ registry.registrations, s.descriptor = t.descriptor := by
  have hmade : s.asMade ∈ registry.registrations.map Registration.asMade := by
    rw [← h.registrations]
    exact List.mem_map_of_mem hs
  obtain ⟨t, ht, hsame⟩ := List.mem_map.mp hmade
  exact ⟨t, ht, (Registration.of_asMade hsame).1.symm⟩

/-- A name leads to the registration that was made under it. -/
theorem exists_get? (h : SameServices registry next) (hget : registry.get? service = some s) :
    ∃ t, next.get? service = some t ∧ t.asMade = s.asMade := by
  let named : Registration σ → Bool := fun s => s.name == service
  have hnamed (l : List (Registration σ)) :
      (l.map Registration.asMade).find? named = (l.find? named).map Registration.asMade :=
    List.find?_map
  have hfound : (next.get? service).map Registration.asMade = some s.asMade := by
    calc (next.get? service).map Registration.asMade
        = (next.registrations.map Registration.asMade).find? named := (hnamed _).symm
      _ = (registry.registrations.map Registration.asMade).find? named := by rw [h.registrations]
      _ = (registry.get? service).map Registration.asMade := hnamed _
      _ = some s.asMade := by rw [hget, Option.map_some]
  exact Option.map_eq_some_iff.mp hfound

end SameServices

section Agreement

/-- Of a registration, its number is all that counts for a look-up. -/
theorem find?_of_number {t : Registration σ} (h : t.number = s.number) (registry : Registry σ)
    (account region : String) :
    registry.find? t account region = registry.find? s account region := by
  rw [find?, find?, h]

/-- Look-ups that agree twice agree. -/
theorem AgreesBut.trans (h : AgreesBut registry next key) (h' : AgreesBut next last key) :
    AgreesBut registry last key := by
  intro s account region hother
  rw [h' s account region hother, h s account region hother]

/-- An access touches the look-up of what is asked for only. -/
theorem Accessed.agreesBut {outcome : Registry σ × Except RegistryError (Instance σ)}
    (h : Accessed registry g account region outcome) :
    AgreesBut registry outcome.1 (g.number, account, region) := by
  intro s account' region' hother
  cases h with
  | refused _ => rfl
  | found _ _ => rfl
  | failed _ _ _ => rfl
  | @built backend i _ _ _ new =>
    have hkey : i.key = (g.number, account, region) := by
      rw [new]
      rfl
    have hserves : ¬ i.serves s.number account' region' = true := by
      rw [Instance.serves_iff, hkey]
      exact Ne.symm hother
    unfold find?
    rw [List.find?_append, List.find?_cons_of_neg hserves, List.find?_nil, Option.or_none]

/-- An access loses nothing. -/
theorem Accessed.keepsFound {outcome : Registry σ × Except RegistryError (Instance σ)}
    (h : Accessed registry g account region outcome) : KeepsFound registry outcome.1 := by
  intro s account' region' hfound
  cases h with
  | refused _ => exact hfound
  | found _ _ => exact hfound
  | failed _ _ _ => exact hfound
  | built _ _ _ _ =>
    unfold find? at hfound ⊢
    rw [List.find?_append, Option.isSome_or, hfound, Bool.true_or]

/-- An access that gets an instance leaves it to be found. -/
theorem find?_of_instanceOf (h : registry.instanceOf g account region = (next, .ok i))
    (hnumber : s.number = g.number) : next.find? s account region = some i := by
  have hkey := key_of_instanceOf h
  cases accessed_of_eq h with
  | found _ present =>
    rw [find?_of_number hnumber]
    exact present
  | built _ absent _ _ => exact find?_joinedBy_self hnumber absent hkey

/-- A new state of an instance shows under its own key only. -/
theorem Consistent.agreesBut_setState (h : Consistent registry) (hi : i ∈ registry.instances)
    (state : σ) : AgreesBut registry (registry.setState i.id state) i.key := by
  intro s account region hother
  have hset : registry.setState i.id state =
      registry.mapInstances (Instance.assigned i.id state) := rfl
  rw [hset, find?_mapInstances (Instance.assigned_asBuilt i.id state)]
  cases hfound : registry.find? s account region with
  | none => rfl
  | some j =>
    obtain ⟨hj, hjkey⟩ := mem_of_find? hfound
    have hid : j.id ≠ i.id := by
      intro hid
      have hsame := h.instance_eq hj hi hid
      apply hother
      rw [← hjkey, hsame]
    have hkept : j.assigned i.id state = j := by simp [Instance.assigned, hid]
    rw [Option.map_some, hkept]

end Agreement

section Materialized

/-- No two registrations have one name. -/
theorem Consistent.nodup_names (h : Consistent registry) :
    (registry.registrations.map Registration.name).Nodup :=
  List.pairwise_map.mpr (h.ascending.imp fun hlt => String.ne_of_lt hlt)

/-- A registration is the one under its name. -/
theorem Consistent.get?_of_mem (h : Consistent registry) (hs : s ∈ registry.registrations) :
    registry.get? s.name = some s := by
  cases hget : registry.get? s.name with
  | none =>
    have hother := List.find?_eq_none.mp hget s hs
    rw [beq_self_eq_true] at hother
    exact absurd rfl hother
  | some t =>
    have ht := List.mem_of_find?_eq_some hget
    rw [List.inj_on_of_nodup_map h.nodup_names ht hs (name_of_get? hget)]

/-- A registration has the accounts and regions for which it has an instance. -/
theorem mem_keysOf_iff : (account, region) ∈ registry.keysOf s ↔
    (registry.find? s account region).isSome = true := by
  have hkeys : (account, region) ∈ registry.keysOf s ↔
      (s.number, account, region) ∈ registry.keys := by
    simp only [keysOf, List.mem_mergeSort, instancesOf, keys, List.mem_map, List.mem_filter,
      beq_iff_eq, Instance.key, Prod.mk.injEq]
    constructor
    · rintro ⟨i, ⟨hi, hnumber⟩, haccount, hregion⟩
      exact ⟨i, hi, hnumber, haccount, hregion⟩
    · rintro ⟨i, hi, hnumber, haccount, hregion⟩
      exact ⟨i, ⟨hi, hnumber⟩, haccount, hregion⟩
  rw [hkeys, ← not_iff_not, ← find?_eq_none_iff, Option.not_isSome_iff_eq_none]

/-- **What is materialised.** The listed keys are those of registered services under which
an instance is found. -/
theorem Consistent.mem_materialized_iff (h : Consistent registry) {key : BackendKey} :
    key ∈ registry.materialized ↔ ∃ s, registry.get? key.service = some s ∧
      (registry.find? s key.account key.region).isSome = true := by
  simp only [materialized, List.mem_flatMap, List.mem_map]
  constructor
  · rintro ⟨s, hs, ⟨account, region⟩, hkey, rfl⟩
    exact ⟨s, h.get?_of_mem hs, mem_keysOf_iff.mp hkey⟩
  · rintro ⟨s, hget, hfound⟩
    refine ⟨s, List.mem_of_find?_eq_some hget, (key.account, key.region),
      mem_keysOf_iff.mpr hfound, ?_⟩
    rw [name_of_get? hget]

/-- Changes that keep the objects change no list of keys. -/
theorem materialized_mapInstances {change : Instance σ → Instance σ}
    (hbuilt : ∀ i, (change i).asBuilt = i.asBuilt) :
    (registry.mapInstances change).materialized = registry.materialized := by
  have hkey (i : Instance σ) : (change i).key = i.key := by
    have hkey : (change i).asBuilt.key = i.asBuilt.key := by rw [hbuilt]
    exact hkey
  have hkeys (s : Registration σ) :
      (registry.mapInstances change).keysOf s = registry.keysOf s := by
    have hof : ((fun i : Instance σ => i.registration == s.number) ∘ change) =
        fun i => i.registration == s.number := by
      funext i
      exact congrArg (fun key => key.1 == s.number) (hkey i)
    have hplace : ((fun i : Instance σ => (i.account, i.region)) ∘ change) =
        fun i => (i.account, i.region) := by
      funext i
      exact congrArg Prod.snd (hkey i)
    simp only [keysOf, instancesOf, mapInstances, List.filter_map, List.map_map, hof, hplace]
  unfold materialized
  simp only [hkeys]
  rfl

/-- An access that gets an instance adds no more than its key to what is materialised. -/
theorem Consistent.mem_materialized_instanceOf (h : Consistent registry)
    (hget : registry.get? service = some g)
    (haccess : registry.instanceOf g account region = (next, .ok i)) {key : BackendKey} :
    key ∈ next.materialized ↔
      key ∈ registry.materialized ∨ key = ⟨service, account, region⟩ := by
  have haccessed := accessed_of_eq haccess
  have hservices := SameServices.accessed haccessed
  have hagrees := haccessed.agreesBut
  have hkeeps := haccessed.keepsFound
  rw [h.mem_materialized_iff, (h.accessed haccessed).mem_materialized_iff]
  constructor
  · rintro ⟨t, hnext, hfound⟩
    obtain ⟨s, hs, hmade⟩ := hservices.symm.exists_get? hnext
    have hnumber := (Registration.of_asMade hmade).2
    by_cases hsame : (t.number, key.account, key.region) = (g.number, account, region)
    · right
      obtain ⟨hg, haccount, hregion⟩ : t.number = g.number ∧ key.account = account ∧
          key.region = region := by simpa using hsame
      obtain rfl := h.registration_eq hget hs (hnumber.trans hg)
      have hservice : key.service = service := (name_of_get? hs).symm.trans (name_of_get? hget)
      rw [← hservice, ← haccount, ← hregion]
    · left
      refine ⟨s, hs, ?_⟩
      rw [← hagrees s key.account key.region (by rwa [hnumber]),
        find?_of_number hnumber]
      exact hfound
  · rintro (⟨s, hs, hfound⟩ | rfl)
    · obtain ⟨t, hnext, hmade⟩ := hservices.exists_get? hs
      have hnumber := (Registration.of_asMade hmade).2
      have hkept := hkeeps s key.account key.region hfound
      refine ⟨t, hnext, ?_⟩
      rw [find?_of_number hnumber]
      exact hkept
    · obtain ⟨t, hnext, hmade⟩ := hservices.exists_get? hget
      have hnumber := (Registration.of_asMade hmade).2
      refine ⟨t, hnext, ?_⟩
      rw [find?_of_instanceOf haccess hnumber, Option.isSome_some]

end Materialized

end Registry

end CloudEmulator
