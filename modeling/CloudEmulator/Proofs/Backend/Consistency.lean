import CloudEmulator.Proofs.Backend.Access
import Mathlib.Data.List.Nodup
import Mathlib.Data.List.Range
import Mathlib.Order.Basic

/-!
# Consistency of the registry

The registrations stay sorted by name and numbered without repetition, the
instances are numbered in order, and no two of them have one key. Every operation
of the registry preserves this.
-/

namespace CloudEmulator

namespace Registry

variable {σ : Type} {registry : Registry σ} {r s : Registration σ} {l : List (Registration σ)}

/-- Registrations with ascending names. -/
def Ascending (l : List (Registration σ)) : Prop :=
  l.Pairwise fun a b => a.name < b.name

/-- A placed list has nothing but the placed registration and the earlier ones. -/
theorem mem_place (h : s ∈ place r l) : s = r ∨ s ∈ l := by
  induction l with
  | nil => simpa [place] using h
  | cons x rest ih =>
    rw [place] at h
    split at h
    · rcases List.mem_cons.mp h with h | h
      · exact .inl h
      · exact .inr (List.mem_cons_of_mem _ h)
    · split at h
      · exact List.mem_cons.mp h
      · rcases List.mem_cons.mp h with h | h
        · exact .inr (h ▸ List.mem_cons_self)
        · exact (ih h).imp_right (List.mem_cons_of_mem _)

/-- Placing a registration keeps the names ascending. -/
theorem Ascending.place (h : Ascending l) (r : Registration σ) :
    Ascending (Registry.place r l) := by
  induction l with
  | nil => exact List.pairwise_singleton _ _
  | cons x rest ih =>
    obtain ⟨hx, hrest⟩ := List.pairwise_cons.mp h
    rw [Registry.place]
    split
    · next heq =>
      have hname : r.name = x.name := by simpa using heq
      exact List.pairwise_cons.mpr ⟨fun y hy => hname ▸ hx y hy, hrest⟩
    · next hne =>
      split
      · next hlt =>
        refine List.pairwise_cons.mpr ⟨fun y hy => ?_, h⟩
        rcases List.mem_cons.mp hy with rfl | hy
        · exact hlt
        · exact String.lt_trans hlt (hx y hy)
      · next hge =>
        have hlt : x.name < r.name :=
          Std.lt_of_le_of_ne (String.not_lt.mp hge) fun heq => hne (by simp [heq])
        refine List.pairwise_cons.mpr ⟨fun y hy => ?_, ih hrest⟩
        rcases mem_place hy with rfl | hy
        · exact hlt
        · exact hx y hy

/-- Where every name is larger, filtering by another name drops nothing. -/
theorem filter_name_ne (h : ∀ y ∈ l, r.name < y.name) :
    l.filter (fun y => !(y.name == r.name)) = l := by
  refine List.filter_eq_self.mpr fun y hy => ?_
  have hne := String.ne_of_lt (h y hy)
  simpa using fun heq => hne heq.symm

/-- Placing puts one registration in for those of its name. -/
theorem place_perm (h : Ascending l) (r : Registration σ) :
    (place r l).Perm (r :: l.filter fun y => !(y.name == r.name)) := by
  induction l with
  | nil => exact List.Perm.refl _
  | cons x rest ih =>
    obtain ⟨hx, hrest⟩ := List.pairwise_cons.mp h
    rw [place]
    split
    · next heq =>
      have hname : r.name = x.name := by simpa using heq
      rw [List.filter_cons_of_neg (by simp [hname]), filter_name_ne fun y hy => hname ▸ hx y hy]
    · next hne =>
      split
      · next hlt =>
        rw [filter_name_ne fun y hy => ?_]
        rcases List.mem_cons.mp hy with rfl | hy
        · exact hlt
        · exact String.lt_trans hlt (hx y hy)
      · have hkeep : (!(x.name == r.name)) = true := by
          simpa using fun heq => hne (by simp [heq])
        rw [List.filter_cons, if_pos hkeep]
        exact ((ih hrest).cons x).trans (List.Perm.swap r x _)

/-- A placed registration is the one of its name. -/
theorem find?_place_self (r : Registration σ) (l : List (Registration σ)) :
    (place r l).find? (·.name == r.name) = some r := by
  induction l with
  | nil => simp [place]
  | cons x rest ih =>
    rw [place]
    split
    · simp
    · next hne =>
      split
      · simp
      · rw [List.find?_cons_of_neg (by simpa using fun heq => hne (by simp [heq]))]
        exact ih

/-- Placing a registration changes nothing for another name. -/
theorem find?_place_of_ne {service : String} (h : r.name ≠ service)
    (l : List (Registration σ)) :
    (place r l).find? (·.name == service) = l.find? (·.name == service) := by
  induction l with
  | nil => simp [place, h]
  | cons x rest ih =>
    rw [place]
    split
    · next heq =>
      have hx : x.name ≠ service := by
        have hname : r.name = x.name := by simpa using heq
        exact hname ▸ h
      rw [List.find?_cons_of_neg (by simpa using h), List.find?_cons_of_neg (by simpa using hx)]
    · split
      · rw [List.find?_cons_of_neg (by simpa using h)]
      · simp only [List.find?_cons, ih]

/-- What holds of every registry that was built up from the empty one. -/
structure Consistent (registry : Registry σ) : Prop where
  ascending : Ascending registry.registrations
  numbers : (registry.known.map (·.number)).Nodup
  numbered : ∀ s ∈ registry.known, s.number < registry.registered
  ids : registry.objects.map (·.id) = List.range registry.objects.length
  keys : registry.keys.Nodup

/-- The empty registry is consistent. -/
theorem consistent_empty : Consistent ({} : Registry σ) where
  ascending := List.Pairwise.nil
  numbers := List.nodup_nil
  numbered := fun _ h => absurd h List.not_mem_nil
  ids := rfl
  keys := List.nodup_nil

namespace Consistent

/-- A number leads to the one registration that has it. -/
theorem registration?_eq_some_iff (h : Consistent registry) {number : Nat} :
    registry.registration? number = some s ↔ s ∈ registry.known ∧ s.number = number := by
  constructor
  · intro hfound
    exact ⟨List.mem_of_find?_eq_some hfound, number_of_registration? hfound⟩
  · rintro ⟨hmem, hnumber⟩
    cases hfound : registry.registration? number with
    | none =>
      have hother := List.find?_eq_none.mp hfound s hmem
      simp [hnumber] at hother
    | some t =>
      have heq := List.inj_on_of_nodup_map h.numbers (List.mem_of_find?_eq_some hfound) hmem
        ((number_of_registration? hfound).trans hnumber.symm)
      rw [heq]

/-- A registration that is found by name is found by its number. -/
theorem registration?_of_get? (h : Consistent registry) {service : String}
    (hget : registry.get? service = some s) : registry.registration? s.number = some s :=
  h.registration?_eq_some_iff.mpr
    ⟨List.mem_append_left _ (List.mem_of_find?_eq_some hget), rfl⟩

/-- An instance is found under the key it has. -/
theorem find?_eq_some_iff (h : Consistent registry) {account region : String} {i : Instance σ} :
    registry.find? s account region = some i ↔
      i ∈ registry.instances ∧ i.key = (s.number, account, region) := by
  constructor
  · exact mem_of_find?
  · rintro ⟨hmem, hkey⟩
    cases hfound : registry.find? s account region with
    | none =>
      exact absurd (List.mem_map.mpr ⟨i, hmem, hkey⟩) (find?_eq_none_iff.mp hfound)
    | some j =>
      obtain ⟨hjmem, hjkey⟩ := mem_of_find? hfound
      rw [List.inj_on_of_nodup_map h.keys hjmem hmem (hjkey.trans hkey.symm)]

/-- After a registration, the new one joins all that there ever were. -/
theorem known_register (h : Consistent registry) (descriptor : ServiceDescriptor σ) :
    (registry.register descriptor).known.Perm
      (⟨descriptor, registry.registered, 0⟩ :: registry.known) := by
  let r : Registration σ := ⟨descriptor, registry.registered, 0⟩
  let same := fun y : Registration σ => y.name == r.name
  have hcomm : (registry.retired ++ registry.registrations.filter same).Perm
      (registry.registrations.filter same ++ registry.retired) := List.perm_append_comm
  have hplace := (place_perm h.ascending r).append hcomm
  have hsplit : (registry.registrations.filter (fun y => !same y) ++
      registry.registrations.filter same).Perm registry.registrations :=
    List.perm_append_comm.trans (List.filter_append_perm same registry.registrations)
  have hjoin := hsplit.append_right registry.retired
  rw [List.append_assoc] at hjoin
  exact hplace.trans (hjoin.cons r)

/-- A registration keeps the registry consistent. -/
theorem register (h : Consistent registry) (descriptor : ServiceDescriptor σ) :
    Consistent (registry.register descriptor) where
  ascending := h.ascending.place _
  numbers := by
    rw [((h.known_register descriptor).map _).nodup_iff]
    refine List.nodup_cons.mpr ⟨fun hmem => ?_, h.numbers⟩
    obtain ⟨s, hs, hnumber⟩ := List.mem_map.mp hmem
    exact absurd hnumber (Nat.ne_of_lt (h.numbered s hs))
  numbered := by
    intro s hs
    rcases List.mem_cons.mp ((h.known_register descriptor).mem_iff.mp hs) with rfl | hs
    · exact Nat.lt_succ_self _
    · exact Nat.lt_succ_of_lt (h.numbered s hs)
  ids := h.ids
  keys := h.keys

/-- Consistency is about the names and the numbers of the registrations, and about
the objects. -/
theorem of_eq (h : Consistent registry) {changed : Registry σ}
    (hnames : changed.registrations.map (·.name) = registry.registrations.map (·.name))
    (hnumbers : changed.known.map (·.number) = registry.known.map (·.number))
    (hregistered : changed.registered = registry.registered)
    (hobjects : changed.objects = registry.objects) : Consistent changed where
  ascending := by
    have hsorted := List.pairwise_map.mpr h.ascending
    rw [← hnames] at hsorted
    exact List.pairwise_map.mp hsorted
  numbers := hnumbers ▸ h.numbers
  numbered := by
    intro s hs
    have hmem : s.number ∈ registry.known.map (·.number) :=
      hnumbers ▸ List.mem_map_of_mem hs
    obtain ⟨t, ht, hnumber⟩ := List.mem_map.mp hmem
    rw [hregistered, ← hnumber]
    exact h.numbered t ht
  ids := hobjects ▸ h.ids
  keys := by
    rw [keys_eq_objects, hobjects, ← keys_eq_objects]
    exact h.keys

/-- Counting a call of a factory keeps the registry consistent. -/
theorem countAttempt (h : Consistent registry) (number : Nat) :
    Consistent (registry.countAttempt number) := by
  refine h.of_eq ?_ ?_ rfl rfl
  · rw [Registry.countAttempt, List.map_map, Registration.name_comp_countAttempt]
  · rw [known, known, Registry.countAttempt, ← List.map_append, List.map_map,
      Registration.number_comp_countAttempt]

/-- An instance with the next number and a key of its own joins consistently. -/
theorem append (h : Consistent registry) {i : Instance σ}
    (hid : i.id = registry.instances.length) (hkey : i.key ∉ registry.keys) :
    Consistent { registry with instances := registry.instances ++ [i] } where
  ascending := h.ascending
  numbers := h.numbers
  numbered := h.numbered
  ids := by
    have hids := h.ids
    simp only [objects, List.length_map] at hids
    simp only [objects, List.map_append, List.map_cons, List.map_nil, List.length_append,
      List.length_map, List.length_cons, List.length_nil, hids, List.range_succ]
    rw [show i.asBuilt.id = registry.instances.length from hid]
  keys := by
    simp only [Registry.keys, List.map_append, List.map_cons, List.map_nil]
    refine List.nodup_append.mpr ⟨h.keys, List.nodup_singleton _, ?_⟩
    intro key hold other hnew heq
    rw [List.mem_singleton.mp hnew] at heq
    exact hkey (heq ▸ hold)

/-- An access keeps the registry consistent. -/
theorem accessed (h : Consistent registry) {account region : String}
    {outcome : Registry σ × Except RegistryError (Instance σ)}
    (haccess : Accessed registry s account region outcome) : Consistent outcome.1 := by
  cases haccess with
  | refused _ => exact h
  | found _ _ => exact h
  | failed _ _ _ => exact h.countAttempt s.number
  | built _ absent _ new =>
    refine (h.countAttempt s.number).append ?_ ?_
    · rw [new]; rfl
    · rw [new]
      exact find?_eq_none_iff.mp absent

end Consistent

end Registry

end CloudEmulator
