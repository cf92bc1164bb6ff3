import CloudEmulator.Http.Headers
import Mathlib.Data.List.Induction
import Mathlib.Data.List.Nodup

/-!
# Setting and decoding headers

A look-up finds the first of the values under a name. Setting a header leaves exactly one
entry of its name, in whatever spellings the name was there before, so a list that is made by
setting headers has each name once. Decoding raw headers stops at the first value that is not
UTF-8.
-/

namespace CloudEmulator

/-- Two names are the same in lower case exactly where they are the same up to case. -/
theorem Text.lower_eq_iff {a b : String} :
    Text.lower a = Text.lower b ↔ Text.sameName a b = true := by
  rw [Text.lower, Text.lower, String.ofList_inj, Text.sameName, beq_iff_eq]

namespace Headers

/-- An entry has its own name. -/
@[simp] theorem named_self (name value : String) : named name (name, value) = true := by
  simp [named, Text.sameName]

/-- Two spellings of one name are the name of the same entries. -/
theorem named_congr {name other : String} (h : Text.sameName name other = true) :
    named name = named other := by
  have hlower : name.toList.map Char.toLower = other.toList.map Char.toLower := by
    simpa [Text.sameName] using h
  funext entry
  simp only [named, Text.sameName, hlower]

/-- Behind an insertion the inserted entry is the only one of its name. -/
theorem filter_named_insertEntry (name value : String) (entries : List (String × String)) :
    (insertEntry name value entries).filter (named name) = [(name, value)] := by
  induction entries with
  | nil => simp [insertEntry]
  | cons entry entries ih =>
    unfold insertEntry
    by_cases hentry : named name entry = true
    · rw [if_pos hentry, List.filter_cons_of_pos (named_self name value), List.filter_filter]
      simp
    · rw [if_neg hentry, List.filter_cons_of_neg hentry, ih]

/-- A header that was set is the only one of its name, in any spelling of the name. -/
theorem filter_named_insert {name spelling : String} (h : Text.sameName spelling name = true)
    (headers : Headers) (value : String) :
    (headers.insert name value).entries.filter (named spelling) = [(name, value)] := by
  rw [named_congr h]
  exact filter_named_insertEntry name value headers.entries

/-- An entry has a name exactly where the two are the same in lower case. -/
theorem named_iff {name : String} {entry : String × String} :
    named name entry = true ↔ Text.lower entry.1 = Text.lower name :=
  Text.lower_eq_iff.symm

/-- The values under a name in any spelling, in their order. -/
def values (h : Headers) (name : String) : List String :=
  (h.entries.filter (named name)).map (·.2)

/-- A name is looked up as the first of its values. -/
theorem get?_eq_head? (h : Headers) (name : String) : h.get? name = (h.values name).head? := by
  rw [get?, values, List.head?_map, List.head?_filter]

/-- The names of a list in lower case. -/
def names (h : Headers) : List String :=
  h.entries.map fun entry => Text.lower entry.1

/-- An insertion brings one entry, and leaves no others than there were. -/
theorem mem_insertEntry {name value : String} {entries : List (String × String)}
    {entry : String × String} (h : entry ∈ insertEntry name value entries) :
    entry = (name, value) ∨ entry ∈ entries := by
  induction entries with
  | nil => exact .inl (List.mem_singleton.mp h)
  | cons first entries ih =>
    rw [insertEntry] at h
    split at h
    · rcases List.mem_cons.mp h with rfl | hlater
      · exact .inl rfl
      · exact .inr (List.mem_cons_of_mem _ (List.mem_of_mem_filter hlater))
    · rcases List.mem_cons.mp h with rfl | hlater
      · exact .inr List.mem_cons_self
      · exact (ih hlater).imp_right (List.mem_cons_of_mem _)

/-- Names that are all different stay so when a header is set. -/
theorem nodup_names_insert {h : Headers} (hnodup : h.names.Nodup) (name value : String) :
    (h.insert name value).names.Nodup := by
  obtain ⟨entries⟩ := h
  simp only [names, insert] at hnodup ⊢
  induction entries with
  | nil => exact List.nodup_singleton _
  | cons first entries ih =>
    obtain ⟨hfirst, hrest⟩ := List.nodup_cons.mp hnodup
    rw [insertEntry]
    split
    next =>
      refine List.nodup_cons.mpr ⟨?_, hrest.sublist (List.filter_sublist.map _)⟩
      intro hmem
      obtain ⟨entry, hentry, hname⟩ := List.mem_map.mp hmem
      have hother := (List.mem_filter.mp hentry).2
      rw [named_iff.mpr hname] at hother
      cases hother
    next hother =>
      refine List.nodup_cons.mpr ⟨?_, ih hrest⟩
      intro hmem
      obtain ⟨entry, hentry, hname⟩ := List.mem_map.mp hmem
      rcases mem_insertEntry hentry with rfl | hold
      · exact hother (named_iff.mpr hname.symm)
      · exact hfirst (List.mem_map.mpr ⟨entry, hold, hname⟩)

/-- The names of a list that was made by setting headers are all different. -/
theorem nodup_names_ofList (entries : List (String × String)) : (ofList entries).names.Nodup := by
  have hfold (h : Headers) (hnodup : h.names.Nodup) :
      (entries.foldl (fun h e => h.insert e.1 e.2) h).names.Nodup := by
    induction entries generalizing h with
    | nil => exact hnodup
    | cons first entries ih => exact ih _ (nodup_names_insert hnodup first.1 first.2)
  exact hfold {} List.nodup_nil

/-- A header of a name that is not there goes to the end. -/
theorem insertEntry_eq_append {name : String} {entries : List (String × String)}
    (h : Text.lower name ∉ entries.map fun entry => Text.lower entry.1) (value : String) :
    insertEntry name value entries = entries ++ [(name, value)] := by
  induction entries with
  | nil => rfl
  | cons first entries ih =>
    rw [List.map_cons, List.mem_cons, not_or] at h
    have hfirst : ¬ named name first = true := fun hnamed => h.1 (named_iff.mp hnamed).symm
    rw [insertEntry, if_neg hfirst, ih h.2, List.cons_append]

/-- Headers of different names that are set in turn are all there, in their order. -/
theorem entries_ofList {entries : List (String × String)}
    (hnodup : (entries.map fun entry => Text.lower entry.1).Nodup) :
    (ofList entries).entries = entries := by
  induction entries using List.reverseRecOn with
  | nil => rfl
  | append_singleton front last ih =>
    rw [List.map_append, List.nodup_append] at hnodup
    obtain ⟨hfront, -, hlast⟩ := hnodup
    have habsent : Text.lower last.1 ∉ front.map fun entry => Text.lower entry.1 := fun hmem =>
      hlast _ hmem _ List.mem_cons_self rfl
    have hentries : (ofList front).entries = front := ih hfront
    rw [ofList, List.foldl_concat, insert]
    change insertEntry last.1 last.2 (ofList front).entries = front ++ [last]
    rw [hentries, insertEntry_eq_append habsent]

/-- Decoding fails with a name exactly when the first value that is not UTF-8 has it. -/
theorem ofRaw_eq_error_iff {raw : List (String × Bytes)} {name : String} :
    ofRaw raw = .error name ↔
      ∃ front value rest, raw = front ++ (name, value) :: rest ∧
        (∀ header ∈ front, (Utf8.decode? header.2).isSome) ∧ Utf8.decode? value = none := by
  induction raw with
  | nil => simp [ofRaw]
  | cons header raw ih =>
    obtain ⟨name', value'⟩ := header
    cases hvalue : Utf8.decode? value' with
    | none =>
      simp only [ofRaw, hvalue]
      constructor
      · intro h
        obtain rfl : name' = name := by simpa using h
        exact ⟨[], value', raw, rfl, by simp, hvalue⟩
      · rintro ⟨front, value, rest, hsplit, hfront, -⟩
        cases front with
        | nil =>
          simp only [List.nil_append, List.cons.injEq, Prod.mk.injEq] at hsplit
          rw [hsplit.1.1]
        | cons header front =>
          simp only [List.cons_append, List.cons.injEq] at hsplit
          have hhead := hfront header (by simp)
          rw [← hsplit.1, hvalue] at hhead
          simp at hhead
    | some text =>
      have hstep : ofRaw ((name', value') :: raw) = .error name ↔ ofRaw raw = .error name := by
        simp only [ofRaw, hvalue]
        cases ofRaw raw <;> simp [Except.map]
      rw [hstep, ih]
      constructor
      · rintro ⟨front, value, rest, rfl, hfront, hbad⟩
        refine ⟨(name', value') :: front, value, rest, rfl, ?_, hbad⟩
        intro header hmem
        rcases List.mem_cons.mp hmem with rfl | hmem
        · simp [hvalue]
        · exact hfront header hmem
      · rintro ⟨front, value, rest, hsplit, hfront, hbad⟩
        cases front with
        | nil =>
          simp only [List.nil_append, List.cons.injEq, Prod.mk.injEq] at hsplit
          rw [← hsplit.1.2, hvalue] at hbad
          cases hbad
        | cons header front =>
          simp only [List.cons_append, List.cons.injEq] at hsplit
          exact ⟨front, value, rest, hsplit.2, fun h hmem => hfront h (by simp [hmem]), hbad⟩

/-- Headers whose values all are UTF-8 can be decoded. -/
theorem exists_ofRaw_eq_ok {raw : List (String × Bytes)}
    (h : ∀ header ∈ raw, (Utf8.decode? header.2).isSome) : ∃ headers, ofRaw raw = .ok headers := by
  cases hraw : ofRaw raw with
  | ok headers => exact ⟨headers, rfl⟩
  | error name =>
    obtain ⟨front, value, rest, rfl, -, hbad⟩ := ofRaw_eq_error_iff.mp hraw
    have hgood := h (name, value) (List.mem_append_right _ List.mem_cons_self)
    rw [hbad] at hgood
    cases hgood

/-- Headers that were decoded have values that all are UTF-8. -/
theorem isSome_decode?_of_ofRaw {raw : List (String × Bytes)} {headers : Headers}
    (h : ofRaw raw = .ok headers) {header : String × Bytes} (hmem : header ∈ raw) :
    (Utf8.decode? header.2).isSome = true := by
  induction raw generalizing headers with
  | nil => cases hmem
  | cons first raw ih =>
    cases hfirst : Utf8.decode? first.2 with
    | none => simp [ofRaw, hfirst] at h
    | some text =>
      cases hrest : ofRaw raw with
      | error name => simp [ofRaw, hfirst, hrest, Except.map] at h
      | ok rest =>
        rcases List.mem_cons.mp hmem with rfl | hlater
        · rw [hfirst, Option.isSome_some]
        · exact ih hrest hlater

end Headers

end CloudEmulator
