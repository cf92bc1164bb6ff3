import CloudEmulator.Script.Value
import Mathlib.Data.List.Induction
import Mathlib.Data.List.Nodup

/-!
# The entries of maps

The entries of a map ascend by their names. Where entries have different names, their map has
all of them, and it is the same map in whatever order they come.
-/

namespace CloudEmulator.Script.Value

variable {name : String} {value : Value} {entries others : List (String × Value)}

/-- The entries ascend by their names. -/
def Ascending (entries : List (String × Value)) : Prop :=
  entries.Pairwise fun e e' => e.1 < e'.1

/-- The entries of the map of some entries. -/
def collected (entries : List (String × Value)) : List (String × Value) :=
  entries.foldl (fun sofar e => insertEntry e.1 e.2 sofar) []

/-- An insertion brings one entry at most. -/
theorem mem_insertEntry {e : String × Value} (h : e ∈ insertEntry name value entries) :
    e = (name, value) ∨ e ∈ entries := by
  induction entries with
  | nil => exact .inl (List.mem_singleton.mp h)
  | cons first entries ih =>
    rw [insertEntry] at h
    split at h
    · exact (List.mem_cons.mp h).imp_right (List.mem_cons_of_mem _)
    · split at h
      · exact List.mem_cons.mp h
      · rcases List.mem_cons.mp h with rfl | hlater
        · exact .inr List.mem_cons_self
        · exact (ih hlater).imp_right (List.mem_cons_of_mem _)

/-- A name that is not there brings its entry, and all others stay. -/
theorem insertEntry_perm (h : name ∉ entries.map (·.1)) :
    (insertEntry name value entries).Perm ((name, value) :: entries) := by
  induction entries with
  | nil => exact List.Perm.refl _
  | cons first entries ih =>
    obtain ⟨hfirst, hlater⟩ := not_or.mp (List.mem_cons.not.mp h)
    rw [insertEntry, if_neg (by simpa using hfirst)]
    split
    · exact List.Perm.refl _
    · exact ((ih hlater).cons first).trans (List.Perm.swap _ _ _)

/-- Entries that ascend do so with one more. -/
theorem Ascending.insertEntry (h : Ascending entries) (name : String) (value : Value) :
    Ascending (insertEntry name value entries) := by
  induction entries with
  | nil => exact List.pairwise_singleton _ _
  | cons first entries ih =>
    obtain ⟨hfirst, hentries⟩ := List.pairwise_cons.mp h
    rw [Value.insertEntry]
    split
    next hsame =>
      obtain rfl : name = first.1 := beq_iff_eq.mp hsame
      exact List.pairwise_cons.mpr ⟨hfirst, hentries⟩
    next hother =>
      split
      next hbefore =>
        refine List.pairwise_cons.mpr ⟨List.forall_mem_cons.mpr ⟨hbefore, ?_⟩, h⟩
        exact fun e he => String.lt_trans hbefore (hfirst e he)
      next hbehind =>
        have hne : first.1 ≠ name := fun heq => hother (beq_iff_eq.mpr heq.symm)
        have hlt : first.1 < name := Std.lt_of_le_of_ne (String.not_lt.mp hbehind) hne
        refine List.pairwise_cons.mpr ⟨fun e he => ?_, ih hentries⟩
        rcases mem_insertEntry he with rfl | he
        · exact hlt
        · exact hfirst e he

/-- The entries of a map ascend. -/
theorem ascending_collected (entries : List (String × Value)) : Ascending (collected entries) := by
  induction entries using List.reverseRecOn with
  | nil => exact List.Pairwise.nil
  | append_singleton front last ih =>
    rw [collected, List.foldl_concat]
    exact ih.insertEntry last.1 last.2

/-- A map has all entries that it is made of, if their names are different. -/
theorem collected_perm (hnodup : (entries.map (·.1)).Nodup) : (collected entries).Perm entries := by
  induction entries using List.reverseRecOn with
  | nil => exact List.Perm.refl _
  | append_singleton front last ih =>
    rw [List.map_append, List.nodup_append] at hnodup
    obtain ⟨hfront, -, hlast⟩ := hnodup
    have hnames : ((collected front).map (·.1)).Perm (front.map (·.1)) := (ih hfront).map _
    have habsent : last.1 ∉ (collected front).map (·.1) := fun hmem =>
      hlast _ (hnames.mem_iff.mp hmem) _ List.mem_cons_self rfl
    rw [collected, List.foldl_concat]
    calc (insertEntry last.1 last.2 (collected front)).Perm (last :: collected front) :=
          insertEntry_perm habsent
      List.Perm _ (last :: front) := (ih hfront).cons last
      List.Perm _ (front ++ [last]) := (List.perm_append_singleton last front).symm

/-- Entries with different names make one map in whatever order they come. -/
theorem ofEntries_eq_of_perm (hnodup : (entries.map (·.1)).Nodup) (hperm : entries.Perm others) :
    ofEntries entries = ofEntries others := by
  have hnodup' : (others.map (·.1)).Nodup := (hperm.map _).nodup_iff.mp hnodup
  have hcollected : (collected entries).Perm (collected others) :=
    (collected_perm hnodup).trans (hperm.trans (collected_perm hnodup').symm)
  refine congrArg map (hcollected.eq_of_pairwise ?_ (ascending_collected _) (ascending_collected _))
  exact fun e e' _ _ hlt hgt => absurd hgt (String.lt_asymm hlt)

end CloudEmulator.Script.Value
