import Mathlib.Data.List.Nodup

/-!
# Association lists

Lists of keys with values, as parameters and header fields are kept: a value is changed where
its key stands, and a new key comes to the end.
-/

namespace CloudEmulator.Associations

variable {α β : Type} [DecidableEq α]

/-- Change the value under a key in its place, or add one at the end where the key is missing. -/
def update (key : α) (change : Option β → β) : List (α × β) → List (α × β)
  | [] => [(key, change none)]
  | (k, v) :: rest =>
    if k == key then (k, change (some v)) :: rest else (k, v) :: update key change rest

variable {key other : α} {change : Option β → β} {entries : List (α × β)}

/-- Behind a first entry of another key all is found that is found without it. -/
theorem lookup_cons_of_ne {k : α} (h : other ≠ k) (v : β) (entries : List (α × β)) :
    ((k, v) :: entries).lookup other = entries.lookup other := by
  rw [List.lookup_cons, beq_eq_false_iff_ne.mpr h]

/-- The changed value is found under its key, and everything else as before. -/
theorem lookup_update (key : α) (change : Option β → β) (other : α) (entries : List (α × β)) :
    (update key change entries).lookup other =
      if other = key then some (change (entries.lookup key)) else entries.lookup other := by
  induction entries with
  | nil =>
    by_cases hother : other = key
    · subst hother
      simp [update]
    · simp [update, lookup_cons_of_ne hother, hother]
  | cons entry rest ih =>
    obtain ⟨k, v⟩ := entry
    rw [update]
    by_cases hk : k = key
    · subst hk
      by_cases hother : other = k
      · subst hother
        simp
      · simp [lookup_cons_of_ne hother, hother]
    · rw [if_neg (by simpa using hk), lookup_cons_of_ne (Ne.symm hk)]
      by_cases hother : other = k
      · subst hother
        simp [hk]
      · rw [lookup_cons_of_ne hother, lookup_cons_of_ne hother, ih]

/-- A key is there behind a change if it is the changed one, or was there before. -/
theorem mem_keys_update : other ∈ (update key change entries).map (·.1) ↔
    other = key ∨ other ∈ entries.map (·.1) := by
  induction entries with
  | nil => simp [update]
  | cons entry rest ih =>
    obtain ⟨k, v⟩ := entry
    rw [update]
    by_cases hk : k = key
    · subst hk
      simp
    · rw [if_neg (by simpa using hk), List.map_cons, List.map_cons, List.mem_cons, List.mem_cons,
        ih]
      exact or_left_comm

/-- Keys that are all different stay so behind a change. -/
theorem nodup_keys_update (h : (entries.map (·.1)).Nodup) :
    ((update key change entries).map (·.1)).Nodup := by
  induction entries with
  | nil => exact List.nodup_singleton _
  | cons entry rest ih =>
    obtain ⟨k, v⟩ := entry
    obtain ⟨hfirst, hrest⟩ := List.nodup_cons.mp h
    rw [update]
    by_cases hk : k = key
    · rw [if_pos (by simpa using hk)]
      exact List.nodup_cons.mpr ⟨hfirst, hrest⟩
    · rw [if_neg (by simpa using hk)]
      refine List.nodup_cons.mpr ⟨fun hmem => ?_, ih hrest⟩
      exact (mem_keys_update.mp hmem).elim hk hfirst

/-- A key that was dropped is not found, and everything else as before. -/
theorem lookup_filter_ne (key other : α) (entries : List (α × β)) :
    (entries.filter fun entry => entry.1 != key).lookup other =
      if other = key then none else entries.lookup other := by
  induction entries with
  | nil => simp
  | cons entry rest ih =>
    obtain ⟨k, v⟩ := entry
    by_cases hk : k = key
    · subst hk
      rw [List.filter_cons_of_neg (by simp), ih]
      by_cases hother : other = k
      · rw [if_pos hother, if_pos hother]
      · rw [if_neg hother, if_neg hother, lookup_cons_of_ne hother]
    · rw [List.filter_cons_of_pos (by simpa using hk)]
      by_cases hother : other = k
      · subst hother
        simp [hk]
      · rw [lookup_cons_of_ne hother, lookup_cons_of_ne hother, ih]

end CloudEmulator.Associations
