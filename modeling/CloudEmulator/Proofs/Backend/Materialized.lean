import CloudEmulator.Proofs.Backend.Lookup
import Mathlib.Data.List.Induction

/-!
# The listing of instances

The keys of the instances of registered services are listed by service, account and region.
A key is there exactly where its service gave an instance for it after the service was last
registered. A registration takes the keys of its own service from the list, and no others.
-/

namespace CloudEmulator

namespace BackendKey

/-- Keys by service, those of one service by account, and those of one account by region. -/
def Precedes (a b : BackendKey) : Prop :=
  a.service < b.service ∨ a.service = b.service ∧
    (a.account < b.account ∨ a.account = b.account ∧ a.region < b.region)

/-- No key stands before itself. -/
theorem Precedes.ne {a b : BackendKey} (h : a.Precedes b) : a ≠ b := by
  rintro rfl
  rcases h with h | ⟨-, h | ⟨-, h⟩⟩
  · exact String.lt_irrefl _ h
  · exact String.lt_irrefl _ h
  · exact String.lt_irrefl _ h

/-- Of two keys, at most one stands before the other. -/
theorem Precedes.asymm {a b : BackendKey} (h : a.Precedes b) : ¬ b.Precedes a := by
  intro h'
  rcases h with h | ⟨hservice, h | ⟨haccount, h⟩⟩
  · rcases h' with h' | ⟨hservice', -⟩
    · exact String.lt_asymm h h'
    · exact String.ne_of_lt h hservice'.symm
  · rcases h' with h' | ⟨-, h' | ⟨haccount', -⟩⟩
    · exact String.ne_of_lt h' hservice.symm
    · exact String.lt_asymm h h'
    · exact String.ne_of_lt h haccount'.symm
  · rcases h' with h' | ⟨-, h' | ⟨-, h'⟩⟩
    · exact String.ne_of_lt h' hservice.symm
    · exact String.ne_of_lt h' haccount.symm
    · exact String.lt_asymm h h'

end BackendKey

namespace Registry

variable {σ : Type} {registry : Registry σ} {s : Registration σ} {op : Operation σ}
  {key : BackendKey} {account region : String}

section Order

/-- The order of accounts and regions, as it is decided. -/
theorem keyLe_iff {a b : String × String} :
    keyLe a b = true ↔ a.1 < b.1 ∨ a.1 = b.1 ∧ a.2 ≤ b.2 := by
  simp [keyLe]

/-- Of two accounts and regions, one does not come behind the other. -/
theorem keyLe_total (a b : String × String) : (keyLe a b || keyLe b a) = true := by
  rw [Bool.or_eq_true, keyLe_iff, keyLe_iff]
  by_cases hlt : a.1 < b.1
  · exact .inl (.inl hlt)
  · by_cases heq : a.1 = b.1
    · rcases String.le_total a.2 b.2 with hle | hle
      · exact .inl (.inr ⟨heq, hle⟩)
      · exact .inr (.inr ⟨heq.symm, hle⟩)
    · exact .inr (.inl (Std.lt_of_le_of_ne (String.not_lt.mp hlt) (Ne.symm heq)))

/-- The order of accounts and regions goes on. -/
theorem keyLe_trans (a b c : String × String) (hab : keyLe a b = true) (hbc : keyLe b c = true) :
    keyLe a c = true := by
  rw [keyLe_iff] at *
  rcases hab with hab | ⟨hab, hab'⟩
  · rcases hbc with hbc | ⟨hbc, -⟩
    · exact .inl (String.lt_trans hab hbc)
    · exact .inl (hbc ▸ hab)
  · rcases hbc with hbc | ⟨hbc, hbc'⟩
    · exact .inl (hab ▸ hbc)
    · exact .inr ⟨hab.trans hbc, String.le_trans hab' hbc'⟩

/-- The keys of one registration stand in order. -/
theorem Consistent.ascending_keysOf (h : Consistent registry) (s : Registration σ) :
    (registry.keysOf s).Pairwise fun a b => a.1 < b.1 ∨ a.1 = b.1 ∧ a.2 < b.2 := by
  have hsorted : (registry.keysOf s).Pairwise fun a b => keyLe a b = true :=
    List.pairwise_mergeSort keyLe_trans keyLe_total _
  refine hsorted.imp₂ ?_ (h.nodup_keysOf s)
  intro a b hle hne
  rcases keyLe_iff.mp hle with hlt | ⟨heq, hle⟩
  · exact .inl hlt
  · exact .inr ⟨heq, Std.lt_of_le_of_ne hle fun hregion => hne (Prod.ext heq hregion)⟩

/-- The listed keys stand in order. -/
theorem Consistent.ascending_materialized (h : Consistent registry) :
    registry.materialized.Pairwise BackendKey.Precedes := by
  refine List.pairwise_flatMap.mpr ⟨?_, h.ascending.imp ?_⟩
  · intro s _
    refine List.pairwise_map.mpr ((h.ascending_keysOf s).imp ?_)
    intro a b hkeys
    exact .inr ⟨rfl, hkeys⟩
  · intro s t hlt a ha b hb
    obtain ⟨_, -, rfl⟩ := List.mem_map.mp ha
    obtain ⟨_, -, rfl⟩ := List.mem_map.mp hb
    exact .inl hlt

/-- Lists in order with the same keys are one list. -/
theorem eq_of_ascending {keys keys' : List BackendKey} (h : keys.Pairwise BackendKey.Precedes)
    (h' : keys'.Pairwise BackendKey.Precedes) (hmem : ∀ key, key ∈ keys ↔ key ∈ keys') :
    keys = keys' := by
  have hperm : keys.Perm keys' :=
    (List.perm_ext_iff_of_nodup (h.imp BackendKey.Precedes.ne)
      (h'.imp BackendKey.Precedes.ne)).mpr hmem
  exact hperm.eq_of_pairwise (fun a b _ _ hab hba => absurd hba hab.asymm) h h'

end Order

section Steps

/-- A key is listed where the number of its service's registration has an instance for the
account and the region. -/
theorem Consistent.mem_materialized_iff_keys (h : Consistent registry) :
    key ∈ registry.materialized ↔ ∃ number,
      (registry.get? key.service).map (·.number) = some number ∧
        (number, key.account, key.region) ∈ registry.keys := by
  have hfound (s : Registration σ) : (registry.find? s key.account key.region).isSome = true ↔
      (s.number, key.account, key.region) ∈ registry.keys := by
    rw [← not_iff_not, ← find?_eq_none_iff, Option.not_isSome_iff_eq_none]
  simp only [h.mem_materialized_iff, hfound, Option.map_eq_some_iff]
  constructor
  · rintro ⟨s, hget, hkey⟩
    exact ⟨s.number, ⟨s, hget, rfl⟩, hkey⟩
  · rintro ⟨_, ⟨s, hget, rfl⟩, hkey⟩
    exact ⟨s, hget, hkey⟩

/-- The operation asks the registration that the service's name leads to for the account and
the region of the key, and gets an instance. -/
def Gives (registry : Registry σ) (op : Operation σ) (key : BackendKey) : Prop :=
  ∃ s i, registry.get? key.service = some s ∧
    op = .access s.number key.account key.region ∧ registry.reply op = .object i

/-- A registration gives no instance. -/
theorem not_gives_register {d : ServiceDescriptor σ} : ¬ registry.Gives (.register d) key := by
  rintro ⟨_, _, -, hop, -⟩
  cases hop

/-- Where a factory succeeds, the access gets an instance. -/
theorem exists_object_of_success? {number : Nat}
    (h : registry.success? op = some (number, account, region)) :
    ∃ i, registry.reply op = .object i := by
  obtain rfl := mem_of_success? h
  cases hknown : registry.registration? number with
  | none => simp [success?, factoryResult?, hknown] at h
  | some s =>
    have hresult := factoryResult?_access hknown account region
    obtain rfl := number_of_registration? hknown
    have haccess := instanceOf_accessed registry s account region
    rw [reply, perform_access hknown]
    generalize registry.instanceOf s account region = outcome at haccess ⊢
    cases haccess with
    | refused outside => simp [success?, hresult, outside] at h
    | found _ _ => exact ⟨_, rfl⟩
    | failed inside absent call =>
      rw [if_pos ⟨inside, find?_eq_none_iff.mp absent⟩, call] at hresult
      simp [success?, hresult] at h
    | built _ _ _ _ => exact ⟨_, rfl⟩

/-- An operation that gives an instance leaves its key there. -/
theorem mem_keys_of_object {number : Nat} {i : Instance σ}
    (h : registry.reply (.access number account region) = .object i) :
    (number, account, region) ∈ (registry.after (.access number account region)).keys := by
  obtain ⟨_, -, -, hobject, hkey⟩ := object_of_access (Prod.ext rfl h :
    registry.perform (.access number account region) = (_, .object i))
  rw [keys_eq_objects, ← hkey]
  exact List.mem_map.mpr ⟨_, hobject, rfl⟩

/-- What an operation does to the list: a key is there afterwards that was there and whose
service was not registered now, or for which an instance was given now. -/
theorem Consistent.mem_materialized_after (h : Consistent registry) (howned : registry.Owned) :
    key ∈ (registry.after op).materialized ↔
      (key ∈ registry.materialized ∧ ∀ d, op = .register d → d.name ≠ key.service) ∨
        registry.Gives op key := by
  by_cases hother : ∀ d, op = .register d → d.name ≠ key.service
  · rw [(h.after op).mem_materialized_iff_keys, h.mem_materialized_iff_keys,
      registry.get?_after key.service hother, keys_after]
    constructor
    · rintro ⟨number, hnumber, hkey⟩
      rcases List.mem_append.mp hkey with hold | hnew
      · exact .inl ⟨⟨number, hnumber, hold⟩, hother⟩
      · have hsuccess := Option.mem_toList.mp hnew
        obtain ⟨s, hget, rfl⟩ := Option.map_eq_some_iff.mp hnumber
        obtain ⟨i, hi⟩ := exists_object_of_success? hsuccess
        exact .inr ⟨s, i, hget, mem_of_success? hsuccess, hi⟩
    · rintro (⟨⟨number, hnumber, hold⟩, -⟩ | ⟨s, i, hget, rfl, hi⟩)
      · exact ⟨number, hnumber, List.mem_append_left _ hold⟩
      · refine ⟨s.number, by rw [hget, Option.map_some], ?_⟩
        rw [← keys_after]
        exact mem_keys_of_object hi
  · obtain ⟨d, rfl, hname⟩ : ∃ d, op = .register d ∧ d.name = key.service := by
      simpa using hother
    -- The number of the new registration is one that no instance has.
    have hnew : (registry.after (.register d)).get? key.service =
        some ⟨d, registry.registered, 0⟩ := by
      rw [← hname]
      exact find?_place_self ⟨d, registry.registered, 0⟩ registry.registrations
    have hempty : (registry.registered, key.account, key.region) ∉
        (registry.after (.register d)).keys := by
      intro hmem
      obtain ⟨i, hi, hkey⟩ := List.mem_map.mp hmem
      have hnumber : i.registration = registry.registered := congrArg Prod.fst hkey
      exact absurd hnumber (Nat.ne_of_lt (howned i hi))
    rw [(h.after _).mem_materialized_iff_keys, hnew]
    constructor
    · rintro ⟨number, hnumber, hkey⟩
      obtain rfl := Option.some.inj hnumber
      exact absurd hkey hempty
    · rintro (⟨-, hothers⟩ | hgives)
      · exact absurd hname (hothers d rfl)
      · exact absurd hgives not_gives_register

/-- A registration takes the keys of its service from the list. -/
theorem Consistent.materialized_register (h : Consistent registry) (howned : registry.Owned)
    (d : ServiceDescriptor σ) : (registry.register d).materialized =
      registry.materialized.filter fun key => key.service != d.name := by
  refine eq_of_ascending (h.register d).ascending_materialized
    (h.ascending_materialized.filter _) fun key => ?_
  have hafter : key ∈ (registry.after (.register d)).materialized ↔
      (key ∈ registry.materialized ∧
        ∀ d', Operation.register d = .register d' → d'.name ≠ key.service) ∨
      registry.Gives (.register d) key := h.mem_materialized_after howned
  rw [or_iff_left not_gives_register] at hafter
  rw [List.mem_filter, bne_iff_ne]
  refine hafter.trans (and_congr_right fun _ => ?_)
  constructor
  · intro hothers
    exact (hothers d rfl).symm
  · intro hother d' hd
    cases hd
    exact hother.symm

/-- An operation that registers nothing and gives no instance through a name leaves the list
as it was. -/
theorem Consistent.materialized_after (h : Consistent registry) (howned : registry.Owned)
    (hregister : ∀ d, op ≠ .register d) (hgives : ∀ key, ¬ registry.Gives op key) :
    (registry.after op).materialized = registry.materialized := by
  refine eq_of_ascending (h.after op).ascending_materialized h.ascending_materialized fun key => ?_
  rw [h.mem_materialized_after howned, or_iff_left (hgives key)]
  exact and_iff_left fun d hd => absurd hd (hregister d)

end Steps

section Runs

/-- Among the operations, one gave an instance for the key, and none behind it registered the
service of the key anew. -/
def GivenSince (ops : List (Operation σ)) (key : BackendKey) : Prop :=
  ∃ front op later, ops = front ++ op :: later ∧ (({} : Registry σ).run front).Gives op key ∧
    ∀ d, .register d ∈ later → d.name ≠ key.service

/-- Operations behind others start from what those leave. -/
theorem run_append (registry : Registry σ) (ops later : List (Operation σ)) :
    registry.run (ops ++ later) = (registry.run ops).run later :=
  List.foldl_append

/-- One more operation after a run is done in what the run leaves. -/
theorem run_concat (registry : Registry σ) (ops : List (Operation σ)) (op : Operation σ) :
    registry.run (ops ++ [op]) = (registry.run ops).after op :=
  registry.run_append ops [op]

/-- With one operation more, a key was given since its service was registered if it was
before and the operation does not register the service, or if the operation gives it. -/
theorem givenSince_concat {ops : List (Operation σ)} :
    GivenSince (ops ++ [op]) key ↔
      (GivenSince ops key ∧ ∀ d, op = .register d → d.name ≠ key.service) ∨
        (({} : Registry σ).run ops).Gives op key := by
  constructor
  · rintro ⟨front, giving, later, hops, hgives, hlater⟩
    rcases List.eq_nil_or_concat' later with rfl | ⟨later, last, rfl⟩
    · obtain ⟨rfl, rfl⟩ := List.append_inj' hops rfl |>.imp_right List.singleton_inj.mp
      exact .inr hgives
    · rw [← List.cons_append, ← List.append_assoc] at hops
      obtain ⟨rfl, rfl⟩ := List.append_inj' hops rfl |>.imp_right List.singleton_inj.mp
      refine .inl ⟨⟨front, giving, later, rfl, hgives, ?_⟩, ?_⟩
      · intro d hd
        exact hlater d (List.mem_append_left _ hd)
      · rintro d rfl
        exact hlater d (List.mem_append_right _ (List.mem_singleton.mpr rfl))
  · rintro (⟨⟨front, giving, later, rfl, hgives, hlater⟩, hother⟩ | hgives)
    · refine ⟨front, giving, later ++ [op], by simp, hgives, fun d hd => ?_⟩
      rcases List.mem_append.mp hd with hd | hd
      · exact hlater d hd
      · exact hother d (List.mem_singleton.mp hd).symm
    · exact ⟨ops, op, [], rfl, hgives, fun _ hd => absurd hd List.not_mem_nil⟩

/-- The instances that a run from the empty registry leaves belong to registrations. -/
theorem owned_run_empty (ops : List (Operation σ)) : (({} : Registry σ).run ops).Owned :=
  consistent_empty.owned_run (fun _ hi => absurd hi List.not_mem_nil) ops

/-- A key is listed after a run where it was given since its service was registered. -/
theorem mem_materialized_run {ops : List (Operation σ)} :
    key ∈ (({} : Registry σ).run ops).materialized ↔ GivenSince ops key := by
  -- The operation that decides is the last one, so the run is taken from its end.
  induction ops using List.reverseRecOn with
  | nil =>
    constructor
    · intro hmem
      cases hmem
    · rintro ⟨front, _, _, hops, -⟩
      cases front <;> cases hops
  | append_singleton ops op ih =>
    have hconsistent := (consistent_empty (σ := σ)).run ops
    rw [run_concat, hconsistent.mem_materialized_after (owned_run_empty ops), ih,
      givenSince_concat]

/-- The region of a listed key is in the scope of its service. -/
theorem scope_of_mem_materialized {ops : List (Operation σ)}
    (h : key ∈ (({} : Registry σ).run ops).materialized) :
    ∃ s, (({} : Registry σ).run ops).get? key.service = some s ∧
      s.descriptor.scope.contains key.region = true := by
  obtain ⟨front, op, later, rfl, ⟨s, i, hget, rfl, hi⟩, hlater⟩ := mem_materialized_run.mp h
  have hfront := (consistent_empty (σ := σ)).run front
  -- The access was inside of the scope of the registration, which is of the same service still.
  obtain ⟨t, ht, hinside, -, -⟩ := object_of_access (Prod.ext rfl hi :
    (({} : Registry σ).run front).perform _ = (_, .object i))
  rw [hfront.registration?_of_get? hget] at ht
  obtain rfl := Option.some.inj ht
  have hname : ∀ d, .register d ∈
      (.access s.number key.account key.region :: later : List (Operation σ)) →
        d.name ≠ key.service := by
    intro d hd
    rcases List.mem_cons.mp hd with hd | hd
    · cases hd
    · exact hlater d hd
  obtain ⟨u, hu, -, hdescriptor⟩ := hfront.exists_get?_run hget hname
  rw [run_append]
  refine ⟨u, hu, ?_⟩
  rw [hdescriptor]
  exact hinside

end Runs

/-- What the listing of instances shows after any operations on an empty registry. -/
structure MaterializedLaws (ops : List (Operation σ)) : Prop where
  /-- The keys stand in order, by service, account and region. -/
  ascending : (({} : Registry σ).run ops).materialized.Pairwise BackendKey.Precedes
  /-- No key is there twice. -/
  nodup : (({} : Registry σ).run ops).materialized.Nodup
  /-- A key is there where its service gave an instance for it since the service was last
  registered. -/
  given : ∀ key, key ∈ (({} : Registry σ).run ops).materialized ↔ GivenSince ops key
  /-- The region of a listed key is in the scope of the service. -/
  inside : ∀ key ∈ (({} : Registry σ).run ops).materialized,
    ∃ s, (({} : Registry σ).run ops).get? key.service = some s ∧
      s.descriptor.scope.contains key.region = true
  /-- A reset of everything replies with the number of keys, and changes none. -/
  reset : (({} : Registry σ).run ops).reply .resetAll =
      .count (({} : Registry σ).run ops).materialized.length ∧
    (({} : Registry σ).run (ops ++ [.resetAll])).materialized =
      (({} : Registry σ).run ops).materialized
  /-- A registration takes away the keys of its own service. -/
  registered : ∀ d : ServiceDescriptor σ,
    (({} : Registry σ).run (ops ++ [.register d])).materialized =
      (({} : Registry σ).run ops).materialized.filter fun key => key.service != d.name
  /-- Whoever still holds a registration that no name leads to can get instances from it. They
  are not listed. -/
  replaced : ∀ number account region,
    (∀ s ∈ (({} : Registry σ).run ops).registrations, s.number ≠ number) →
    (({} : Registry σ).run (ops ++ [.access number account region])).materialized =
      (({} : Registry σ).run ops).materialized

/-- After every run of operations, the listing keeps its laws. -/
theorem materializedLaws (ops : List (Operation σ)) : MaterializedLaws ops := by
  have hconsistent := (consistent_empty (σ := σ)).run ops
  have howned := owned_run_empty ops
  exact {
    ascending := hconsistent.ascending_materialized
    nodup := hconsistent.nodup_materialized
    given := fun _ => mem_materialized_run
    inside := fun _ hmem => scope_of_mem_materialized hmem
    reset := by
      constructor
      · rw [reply, perform, resetAll_count]
      · rw [run_concat]
        apply hconsistent.materialized_after howned
        · intro d hop
          cases hop
        · rintro key ⟨_, _, -, hop, -⟩
          cases hop
    registered := fun d => by
      rw [run_concat]
      exact hconsistent.materialized_register howned d
    replaced := fun number account region hreplaced => by
      rw [run_concat]
      apply hconsistent.materialized_after howned
      · intro d hop
        cases hop
      · rintro key ⟨s, _, hget, hop, -⟩
        cases hop
        exact hreplaced s (List.mem_of_find?_eq_some hget) rfl }

end Registry

end CloudEmulator
