import CloudEmulator.Proofs.Http.HeaderInsertion
import Mathlib.Data.Fintype.EquivFin
import Mathlib.Data.List.Perm.Subperm

/-!
# Equal header lists

Lists are compared by their sizes, and by whether each entry of the first is one of the second
up to the case of its name. For a first list that repeats no entry this is the same as having
the same entries in another order. For every other first list it is not, and not even
symmetric: one of the repeated entries may stand for something else in the second list.
-/

namespace CloudEmulator.Headers

variable {h other third : Headers}

/-- An entry with its name in lower case. -/
def key (entry : String × String) : String × String :=
  (Text.lower entry.1, entry.2)

/-- The entries with their names in lower case. -/
def keys (h : Headers) : List (String × String) :=
  h.entries.map key

/-- The lists have the same entries in some order, up to the case of names; repeated entries
count as often as they occur. -/
def Rearranges (h other : Headers) : Prop :=
  h.keys.Perm other.keys

instance (h other : Headers) : Decidable (h.Rearranges other) :=
  inferInstanceAs (Decidable (h.keys.Perm other.keys))

/-- No entry occurs twice, up to the case of its name. -/
def Distinct (h : Headers) : Prop :=
  h.keys.Nodup

/-- Lists agree exactly where they have one size and the second has all entries of the first. -/
theorem agrees_iff :
    h.agrees other = true ↔ h.keys.length = other.keys.length ∧ h.keys ⊆ other.keys := by
  have hsame (e o : String × String) : (named e.1 o && o.2 == e.2) = true ↔ key o = key e := by
    rw [Bool.and_eq_true, named_iff, beq_iff_eq, key, key, Prod.mk.injEq]
  have hall : (h.entries.all fun e => other.entries.any fun o => named e.1 o && o.2 == e.2) = true ↔
      h.keys ⊆ other.keys := by
    simp only [List.all_eq_true, List.any_eq_true, hsame]
    constructor
    · intro hfound k hk
      obtain ⟨e, he, rfl⟩ := List.mem_map.mp hk
      exact List.mem_map.mpr (hfound e he)
    · intro hsub e he
      exact List.mem_map.mp (hsub (List.mem_map_of_mem he))
  rw [agrees, Bool.and_eq_true, hall, beq_iff_eq, size, size, keys, keys, List.length_map,
    List.length_map]

/-- A list agrees with itself. -/
theorem agrees_refl (h : Headers) : h.agrees h = true :=
  agrees_iff.mpr ⟨rfl, List.Subset.refl _⟩

/-- Agreement goes on from list to list. -/
theorem agrees_trans (hfirst : h.agrees other = true) (hlater : other.agrees third = true) :
    h.agrees third = true := by
  obtain ⟨hsize, hsub⟩ := agrees_iff.mp hfirst
  obtain ⟨hsize', hsub'⟩ := agrees_iff.mp hlater
  exact agrees_iff.mpr ⟨hsize.trans hsize', List.Subset.trans hsub hsub'⟩

/-- A list agrees with every rearrangement of it. -/
theorem agrees_of_rearranges (hperm : h.Rearranges other) : h.agrees other = true :=
  agrees_iff.mpr ⟨hperm.length_eq, hperm.subset⟩

/-- A list without repetitions agrees with its rearrangements only. -/
theorem Distinct.rearranges (hdistinct : h.Distinct) (hagrees : h.agrees other = true) :
    h.Rearranges other := by
  obtain ⟨hsize, hsub⟩ := agrees_iff.mp hagrees
  exact (List.subperm_of_subset hdistinct hsub).perm_of_length_le (Nat.le_of_eq hsize.symm)

/-- In a list with repetitions some entry occurs again behind it. -/
theorem exists_repeated {entries : List (String × String)} (hrepeats : ¬ (entries.map key).Nodup) :
    ∃ front entry later, entries = front ++ entry :: later ∧ key entry ∈ later.map key := by
  induction entries with
  | nil => exact absurd List.nodup_nil hrepeats
  | cons first entries ih =>
    by_cases hagain : key first ∈ entries.map key
    · exact ⟨[], first, entries, rfl, hagain⟩
    · have hlater : ¬ (entries.map key).Nodup := fun hnodup =>
        hrepeats (List.nodup_cons.mpr ⟨hagain, hnodup⟩)
      obtain ⟨front, entry, later, rfl, hmem⟩ := ih hlater
      exact ⟨first :: front, entry, later, rfl, hmem⟩

/-- Every list lacks some entry. -/
theorem exists_absent (h : Headers) : ∃ entry, key entry ∉ h.keys := by
  obtain ⟨value, hvalue⟩ := Infinite.exists_notMem_finset (h.keys.map (·.2)).toFinset
  refine ⟨("", value), fun hmem => hvalue ?_⟩
  exact List.mem_toFinset.mpr (List.mem_map.mpr ⟨_, hmem, rfl⟩)

/-- A list with repetitions agrees with a list that does not agree with it: the one that has
an entry of its own in place of a repeated one. -/
theorem exists_agrees_not_agrees (hrepeats : ¬ h.Distinct) :
    ∃ other : Headers, h.agrees other = true ∧ other.agrees h = false := by
  obtain ⟨front, entry, later, hentries, hagain⟩ := exists_repeated hrepeats
  obtain ⟨absent, habsent⟩ := exists_absent h
  have hkeys : h.keys = front.map key ++ key entry :: later.map key := by
    rw [keys, hentries, List.map_append, List.map_cons]
  let other : Headers := ⟨front ++ absent :: later⟩
  have hother : other.keys = front.map key ++ key absent :: later.map key := by
    rw [keys, List.map_append, List.map_cons]
  refine ⟨other, agrees_iff.mpr ⟨?_, ?_⟩, Bool.eq_false_iff.mpr fun hback => ?_⟩
  · simp [hkeys, hother]
  · rw [hkeys, hother]
    intro k hk
    rcases List.mem_append.mp hk with hfront | hbehind
    · exact List.mem_append_left _ hfront
    · rcases List.mem_cons.mp hbehind with rfl | hlater
      · exact List.mem_append_right _ (List.mem_cons_of_mem _ hagain)
      · exact List.mem_append_right _ (List.mem_cons_of_mem _ hlater)
  · refine habsent ((agrees_iff.mp hback).2 ?_)
    rw [hother]
    exact List.mem_append_right _ List.mem_cons_self

/-- A list that has each name once repeats no entry. -/
theorem distinct_of_nodup_names (hnodup : h.names.Nodup) : h.Distinct := by
  have hnames : h.names = h.keys.map (·.1) := by
    rw [names, keys, List.map_map]
    rfl
  rw [hnames] at hnodup
  exact hnodup.of_map _

/-- What the comparison of a header list with others says. -/
structure EqualityLaws (h : Headers) : Prop where
  refl : h.agrees h = true
  trans : ∀ other third : Headers, h.agrees other = true → other.agrees third = true →
    h.agrees third = true
  /-- The order of the entries and the case of names never matter. -/
  rearranged : ∀ other : Headers, h.Rearranges other → h.agrees other = true
  /-- The comparison is symmetric exactly if the list repeats no entry. -/
  symm_iff : (∀ other : Headers, h.agrees other = true → other.agrees h = true) ↔ h.Distinct
  /-- The lists that agree with the list are its rearrangements exactly if it repeats no
  entry. -/
  rearranges_iff : (∀ other : Headers, h.agrees other = true ↔ h.Rearranges other) ↔ h.Distinct
  /-- A list that is made by setting headers repeats no entry. -/
  set : ∀ entries : List (String × String), h = ofList entries → h.Distinct

/-- **Equality of header lists.** The comparison is reflexive and transitive and does not see
order and case. It is equality up to these, and symmetric, exactly for the lists that repeat no
entry; lists made by setting headers are of this kind. -/
theorem equalityLaws (h : Headers) : EqualityLaws h where
  refl := h.agrees_refl
  trans := fun _ _ => agrees_trans
  rearranged := fun _ => agrees_of_rearranges
  symm_iff := by
    constructor
    · intro hsymm
      by_contra hrepeats
      obtain ⟨other, hagrees, hback⟩ := exists_agrees_not_agrees hrepeats
      rw [hsymm other hagrees] at hback
      cases hback
    · intro hdistinct other hagrees
      exact agrees_of_rearranges (hdistinct.rearranges hagrees).symm
  rearranges_iff := by
    constructor
    · intro hexact
      by_contra hrepeats
      obtain ⟨other, hagrees, hback⟩ := exists_agrees_not_agrees hrepeats
      rw [agrees_of_rearranges ((hexact other).mp hagrees).symm] at hback
      cases hback
    · exact fun hdistinct other => ⟨hdistinct.rearranges, agrees_of_rearranges⟩
  set := by
    rintro entries rfl
    exact distinct_of_nodup_names (nodup_names_ofList entries)

/-- A list that has one header twice. -/
def twice : Headers := ⟨[("A", "1"), ("a", "1")]⟩

/-- A list that has another header besides. -/
def once : Headers := ⟨[("A", "1"), ("B", "2")]⟩

/-- The list with the repetition agrees with the other one, but not the other way round, and
neither is a rearrangement of the other. -/
theorem twice_agrees_once :
    twice.agrees once = true ∧ once.agrees twice = false ∧ ¬ twice.Rearranges once := by
  decide +kernel

end CloudEmulator.Headers
