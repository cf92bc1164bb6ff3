import CloudEmulator.Proofs.Http.HeaderInsertion

/-!
# Replacing headers

A header is set in one pass: the first entry of the name is overwritten where it stands, and the
entries behind it are walked through by their places while those of the name are dropped. The
outcome is told by cutting the list at the first entry of the name. Nothing of another name
changes, so look-ups of other names do not either.
-/

namespace CloudEmulator.Headers

variable {h : Headers} {name spelling other value : String} {entry : String × String}
  {front later : List (String × String)}

/-- The entries that do not have a name. -/
def others (name : String) (entries : List (String × String)) : List (String × String) :=
  entries.filter fun e => !named name e

/-- The first entry of a name stands between `front` and `later`. -/
structure FirstAt (name : String) (entries front : List (String × String))
    (entry : String × String) (later : List (String × String)) : Prop where
  split : entries = front ++ entry :: later
  skipped : ∀ e ∈ front, named name e = false
  found : named name entry = true

/-- A name is not there, or has a first entry. -/
theorem absent_or_firstAt (name : String) (entries : List (String × String)) :
    (∀ e ∈ entries, named name e = false) ∨
      ∃ front entry later, FirstAt name entries front entry later := by
  cases hfind : entries.find? (named name) with
  | none =>
    have habsent := List.find?_eq_none.mp hfind
    exact .inl fun e he => Bool.eq_false_iff.mpr (habsent e he)
  | some entry =>
    obtain ⟨hnamed, front, later, hsplit, hfront⟩ := List.find?_eq_some_iff_append.mp hfind
    refine .inr ⟨front, entry, later, hsplit, fun e he => ?_, hnamed⟩
    simpa using hfront e he

section Pass

/-- What is walked through from a place on loses the entries of the name; what stands in front of
the place stays. -/
theorem dropFrom_append (name : String) (front later : List (String × String)) :
    dropFrom name (front ++ later) front.length = front ++ others name later := by
  induction later generalizing front with
  | nil => simp [dropFrom, others]
  | cons entry later ih =>
    have hinside : front.length < (front ++ entry :: later).length := by simp
    have hhere : (front ++ entry :: later)[front.length] = entry := by simp
    rw [dropFrom, dif_pos hinside, hhere]
    cases hnamed : named name entry with
    | true =>
      have herased : (front ++ entry :: later).eraseIdx front.length = front ++ later := by
        simp [List.eraseIdx_append_of_length_le]
      rw [if_pos rfl, herased, ih]
      simp [others, hnamed]
    | false =>
      have hnext := ih (front ++ [entry])
      rw [List.length_append, List.length_singleton, List.append_assoc, List.append_assoc,
        List.singleton_append] at hnext
      rw [if_neg Bool.false_ne_true, hnext]
      simp [others, hnamed]

/-- A name that is not there goes to the end. -/
theorem replace_of_absent (habsent : ∀ e ∈ h.entries, named name e = false) :
    h.replace name value = (h.append name value, none) := by
  have hindex := List.findIdx_eq_length.mpr habsent
  rw [replace, hindex, dif_neg (Nat.lt_irrefl _)]

/-- The first entry of a name is overwritten, and the later ones are dropped. -/
theorem FirstAt.replace (hfirst : FirstAt name h.entries front entry later) :
    h.replace name value = (⟨front ++ (name, value) :: others name later⟩, some entry.2) := by
  obtain ⟨entries⟩ := h
  obtain ⟨rfl, hskipped, hnamed⟩ := hfirst
  have hindex : (front ++ entry :: later).findIdx (Headers.named name) = front.length := by
    rw [List.findIdx_append, List.findIdx_eq_length.mpr hskipped, if_neg (Nat.lt_irrefl _),
      List.findIdx_cons, hnamed, cond_true, Nat.zero_add]
  have hinside : front.length < (front ++ entry :: later).length := by simp
  have hhere : (front ++ entry :: later)[front.length] = entry := by simp
  have hset : (front ++ entry :: later).set front.length (name, value) =
      front ++ (name, value) :: later := by simp
  -- the two spellings of the name drop the same entries
  have hspelled : others entry.1 later = others name later := by
    rw [others, others, named_congr hnamed]
  have hpass := dropFrom_append entry.1 (front ++ [(name, value)]) later
  rw [List.length_append, List.length_singleton, List.append_assoc, List.append_assoc,
    List.singleton_append, List.singleton_append, hspelled] at hpass
  simp only [Headers.replace, hindex]
  rw [dif_pos hinside, hhere, hset, hpass]

/-- An insertion overwrites the first entry of a name as well. -/
theorem FirstAt.insertEntry {entries : List (String × String)}
    (hfirst : FirstAt name entries front entry later) (value : String) :
    insertEntry name value entries = front ++ (name, value) :: others name later := by
  obtain ⟨rfl, hskipped, hfound⟩ := hfirst
  induction front with
  | nil => rw [List.nil_append, Headers.insertEntry, if_pos hfound, others, List.nil_append]
  | cons first front ih =>
    obtain ⟨hfirst, hfront⟩ := List.forall_mem_cons.mp hskipped
    rw [List.cons_append, Headers.insertEntry, if_neg (Bool.eq_false_iff.mp hfirst), ih hfront,
      List.cons_append]

/-- The first entry of a name is the one that is looked up. -/
theorem FirstAt.get?_eq (hfirst : FirstAt name h.entries front entry later) :
    h.get? name = some entry.2 := by
  have hfind : h.entries.find? (Headers.named name) = some entry := by
    refine List.find?_eq_some_iff_append.mpr ⟨hfirst.found, front, later, hfirst.split, ?_⟩
    intro e he
    rw [hfirst.skipped e he]
    rfl
  rw [get?, hfind]
  rfl

/-- A name that is not there is not found. -/
theorem get?_of_absent (habsent : ∀ e ∈ h.entries, named name e = false) : h.get? name = none := by
  have hfind : h.entries.find? (Headers.named name) = none :=
    List.find?_eq_none.mpr fun e he => Bool.eq_false_iff.mp (habsent e he)
  rw [get?, hfind]
  rfl

/-- Setting a header in one pass leaves what inserting it leaves, and gives the value that a
look-up gave before. -/
theorem replace_eq (h : Headers) (name value : String) :
    h.replace name value = (h.insert name value, h.get? name) := by
  rcases absent_or_firstAt name h.entries with habsent | ⟨front, entry, later, hfirst⟩
  · have hnew : Text.lower name ∉ h.entries.map fun e => Text.lower e.1 := by
      intro hmem
      obtain ⟨e, he, hlower⟩ := List.mem_map.mp hmem
      rw [← named_iff, habsent e he] at hlower
      cases hlower
    rw [replace_of_absent habsent, get?_of_absent habsent, insert, insertEntry_eq_append hnew]
    rfl
  · rw [hfirst.replace, hfirst.get?_eq, insert, hfirst.insertEntry]

/-- A pass adds the entries of other names to those that were kept, and tells a value unless one
was told. -/
theorem foldl_sift (name : String) (entries : List (String × String))
    (sifted : Headers × Option String) :
    entries.foldl (sift name) sifted =
      (⟨sifted.1.entries ++ others name entries⟩, sifted.2.or (get? ⟨entries⟩ name)) := by
  induction entries generalizing sifted with
  | nil => simp [others, get?]
  | cons entry entries ih =>
    rw [List.foldl_cons, ih, sift]
    cases hnamed : named name entry <;> simp [others, get?, append, hnamed]

/-- Dropping a header in one pass leaves the entries of other names, and gives the value that a
look-up gave before. -/
theorem remove_eq (h : Headers) (name : String) :
    h.remove name = (⟨others name h.entries⟩, h.get? name) := by
  rw [remove, foldl_sift, List.nil_append, Option.none_or]

end Pass

section Views

/-- What has one name has no other. -/
theorem named_other (hother : Text.sameName other name = false)
    (hnamed : named other entry = true) : named name entry = false := by
  refine Bool.eq_false_iff.mpr fun hname => ?_
  rw [named_iff] at hnamed hname
  rw [Text.lower_eq_iff.mp (hnamed.symm.trans hname)] at hother
  cases hother

/-- A look-up sees nothing of the entries of another name. -/
theorem get?_others (hother : Text.sameName other name = false) (entries : List (String × String)) :
    get? ⟨others name entries⟩ other = get? ⟨entries⟩ other := by
  have hseen : (fun e => decide ((!named name e) = true ∧ named other e = true)) = named other := by
    funext e
    cases hnamed : named other e with
    | false => simp
    | true => simp [named_other hother hnamed]
  rw [get?, get?, others, List.find?_filter, hseen]

/-- Setting a header leaves the entries of other names, in their order. -/
theorem others_replace (h : Headers) (name value : String) :
    others name (h.replace name value).1.entries = others name h.entries := by
  rcases absent_or_firstAt name h.entries with habsent | ⟨front, entry, later, hfirst⟩
  · rw [replace_of_absent habsent, append]
    simp [others]
  · rw [hfirst.replace, hfirst.split]
    simp [others, hfirst.found]

/-- Setting a header is not seen by a look-up of another name. -/
theorem get?_insert_other (hother : Text.sameName other name = false) (h : Headers)
    (value : String) : (h.insert name value).get? other = h.get? other := by
  have hothers := others_replace h name value
  rw [replace_eq] at hothers
  calc (h.insert name value).get? other
      = get? ⟨others name (h.insert name value).entries⟩ other := (get?_others hother _).symm
    _ = get? ⟨others name h.entries⟩ other := by rw [hothers]
    _ = h.get? other := get?_others hother _

/-- A header that was set is set anew where it stands. -/
theorem replace_replace (h : Headers) (name value next : String) :
    (h.replace name value).1.replace name next = ((h.replace name next).1, some value) := by
  rcases absent_or_firstAt name h.entries with habsent | ⟨front, entry, later, hfirst⟩
  · rw [replace_of_absent habsent, replace_of_absent habsent]
    have hlast : FirstAt name (h.append name value).entries h.entries (name, value) [] :=
      ⟨rfl, habsent, named_self name value⟩
    rw [hlast.replace]
    rfl
  · rw [hfirst.replace, hfirst.replace]
    have hplace : FirstAt name (front ++ (name, value) :: others name later) front (name, value)
        (others name later) :=
      ⟨rfl, hfirst.skipped, named_self name value⟩
    have hsifted : others name (others name later) = others name later := by
      rw [others, others, List.filter_filter]
      simp
    rw [FirstAt.replace (h := ⟨front ++ (name, value) :: others name later⟩) hplace, hsifted]

end Views

/-- What setting a header to a value leaves, and what it gives. -/
structure ReplacementLaws (h : Headers) (name value : String) (set : Headers × Option String) :
    Prop where
  /-- The first entry of the name is overwritten where it stands, and its value is given. -/
  placed : ∀ front entry later, FirstAt name h.entries front entry later →
    set = (⟨front ++ (name, value) :: others name later⟩, some entry.2)
  /-- A name that is not there goes to the end, and no value is given. -/
  added : (∀ e ∈ h.entries, named name e = false) →
    set = (⟨h.entries ++ [(name, value)]⟩, none)
  /-- One entry has the name, as it was spelled. -/
  only : set.1.entries.filter (named name) = [(name, value)]
  /-- The entries of other names are as they were, in their order. -/
  rest : others name set.1.entries = others name h.entries
  /-- The value is found under every spelling of the name. -/
  found : ∀ spelling, Text.sameName spelling name = true → set.1.get? spelling = some value
  /-- Look-ups of other names find what they found. -/
  kept : ∀ other, Text.sameName other name = false → set.1.get? other = h.get? other
  /-- Setting the header again changes nothing. -/
  again : set.1.replace name value = (set.1, some value)
  /-- Dropping the header leaves the entries of other names. -/
  dropped : ∀ spelling, Text.sameName spelling name = true →
    set.1.remove spelling = (⟨others name h.entries⟩, some value)
  /-- An insertion leaves the same list, and a look-up before it gave the same value. -/
  inserted : set = (h.insert name value, h.get? name)

/-- **Setting a header.** The first entry of the name gives its place and its old value, later
entries of the name are dropped, and a name that is not there goes to the end. Nothing of another
name changes, setting the header again changes nothing, and dropping it leaves the others. -/
theorem replacementLaws (h : Headers) (name value : String) :
    ReplacementLaws h name value (h.replace name value) := by
  have hinserted := h.replace_eq name value
  have hrest := h.others_replace name value
  have honly (spelling : String) (hsame : Text.sameName spelling name = true) :
      (h.replace name value).1.entries.filter (named spelling) = [(name, value)] := by
    rw [hinserted]
    exact filter_named_insert hsame h value
  have hfound (spelling : String) (hsame : Text.sameName spelling name = true) :
      (h.replace name value).1.get? spelling = some value := by
    rw [get?_eq_head?, values, honly spelling hsame]
    rfl
  have hself : Text.sameName name name = true := named_self name value
  constructor
  case placed => exact fun front entry later hfirst => hfirst.replace
  case added => exact fun habsent => replace_of_absent habsent
  case only => exact honly name hself
  case rest => exact hrest
  case found => exact hfound
  case kept =>
    intro other hother
    have hbefore := get?_others hother h.entries
    rw [← hrest] at hbefore
    exact (get?_others hother _).symm.trans hbefore
  case again => exact h.replace_replace name value value
  case dropped =>
    intro spelling hsame
    rw [remove_eq, hfound spelling hsame, others, named_congr hsame]
    exact congrArg (fun entries => (Headers.mk entries, some value)) hrest
  case inserted => exact hinserted

/-- Repeated names next to each other, in several spellings, are all dropped. -/
example : Headers.replace ⟨[("b", "0"), ("a", "1"), ("A", "2"), ("a", "3"), ("c", "4")]⟩ "A" "9" =
    (⟨[("b", "0"), ("A", "9"), ("c", "4")]⟩, some "1") := by
  cbv

end CloudEmulator.Headers
