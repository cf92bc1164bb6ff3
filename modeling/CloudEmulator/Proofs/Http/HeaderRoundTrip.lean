import CloudEmulator.Proofs.Http.FieldValues

/-!
# Header lists through field maps

A header list that goes through a field map comes back with the entries that may be sent: under
each name the same values in the same order, and the names in lower case. Such a list goes
through field maps unchanged.
-/

namespace CloudEmulator

/-- Different texts have different octets. -/
theorem Utf8.encode_injective : Function.Injective Utf8.encode := by
  intro s t heq
  have hread := congrArg Utf8.decode? heq
  rw [Utf8.decode?_encode, Utf8.decode?_encode] at hread
  exact Option.some.inj hread

namespace Headers

variable {h back : Headers} {name : String}

/-- The list that comes back from a field map. -/
def roundTrip (h : Headers) : Except String Headers :=
  (FieldMap.ofHeaders h).toHeaders

/-- An entry with its value as octets. -/
def raw (entry : String × String) : String × Bytes :=
  (entry.1, Utf8.encode entry.2)

/-- Entries are decoded from their octets again. -/
theorem ofRaw_map_raw (entries : List (String × String)) :
    ofRaw (entries.map raw) = .ok ⟨entries⟩ := by
  induction entries with
  | nil => rfl
  | cons entry entries ih =>
    rw [List.map_cons, raw, ofRaw, Utf8.decode?_encode]
    simp only [ih, Except.map]

/-- A list contains the names that a look-up finds. -/
theorem contains_eq (h : Headers) (name : String) : h.contains name = (h.get? name).isSome := by
  rw [contains, get?, Option.isSome_map, Bool.eq_iff_iff, List.any_eq_true, List.find?_isSome]

/-- The entries that a field map of a list sends are entries of texts. -/
theorem exists_toList_eq (h : Headers) :
    ∃ entries, (FieldMap.ofHeaders h).toList = List.map raw entries := by
  have hread : ∀ entry ∈ (FieldMap.ofHeaders h).toList,
      raw (entry.1, (Utf8.decode? entry.2).getD "") = entry := by
    intro entry hentry
    have hsent := FieldMap.mem_sent hentry
    rw [FieldMap.sent_ofHeaders] at hsent
    obtain ⟨value, -, hvalue⟩ := List.mem_map.mp hsent
    rw [raw, ← hvalue, Utf8.decode?_encode, Option.getD_some, hvalue]
  refine ⟨(FieldMap.ofHeaders h).toList.map fun entry =>
    (entry.1, (Utf8.decode? entry.2).getD ""), ?_⟩
  rw [List.map_map]
  exact ((List.map_congr_left hread).trans (List.map_id _)).symm

/-- What comes back from a field map of a list. -/
structure Returns (h back : Headers) : Prop where
  eq_ok : h.roundTrip = .ok back
  values : ∀ name, back.values name = h.sendable.values name
  names : ∀ entry ∈ back.entries, Text.lower entry.1 = entry.1

/-- Every list comes back. -/
theorem exists_returns (h : Headers) : ∃ back, h.Returns back := by
  obtain ⟨entries, hentries⟩ := exists_toList_eq h
  have hnamed (name : String) :
      (fun entry : String × Bytes => Text.sameName entry.1 name) ∘ raw = named name := rfl
  refine ⟨⟨entries⟩, ?_, fun name => ?_, fun entry hentry => ?_⟩
  · rw [roundTrip, FieldMap.toHeaders, hentries, ofRaw_map_raw]
  · have hsent := FieldMap.sent_ofHeaders h name
    rw [FieldMap.sent, hentries, List.filter_map, hnamed, List.map_map] at hsent
    refine List.map_injective_iff.mpr Utf8.encode_injective ?_
    rw [← hsent, Headers.values, List.map_map]
    rfl
  · have hmem : raw entry ∈ (FieldMap.ofHeaders h).toList := by
      rw [hentries]
      exact List.mem_map_of_mem hentry
    exact (FieldMap.proper_ofHeaders h).lower_of_mem hmem

/-- All entries that come back may be sent. -/
theorem Returns.isSendable (hback : h.Returns back) {entry : String × String}
    (hentry : entry ∈ back.entries) : isSendable entry = true := by
  have hvalue : entry.2 ∈ back.values entry.1 :=
    List.mem_map_of_mem (List.mem_filter.mpr ⟨hentry, named_self entry.1 entry.2⟩)
  rw [hback.values] at hvalue
  obtain ⟨original, horiginal, heq⟩ := List.mem_map.mp hvalue
  obtain ⟨hmem, hname⟩ := List.mem_filter.mp horiginal
  obtain ⟨hfield, hchars⟩ := Bool.and_eq_true_iff.mp (List.mem_filter.mp hmem).2
  have hlower : Text.lower original.1 = entry.1 := by
    rw [named_iff.mp hname, hback.names entry hentry]
  refine Bool.and_eq_true_iff.mpr ⟨?_, ?_⟩
  · rw [← hlower]
    exact Http.isFieldName_lower hfield
  · rw [← heq]
    exact hchars

/-- A list of which all entries may be sent is sent as a whole. -/
theorem sendable_eq_self (hall : ∀ entry ∈ h.entries, isSendable entry = true) :
    h.sendable = h := by
  rw [sendable, List.filter_eq_self.mpr hall]

/-- What a header list becomes on its way through a field map. -/
structure RoundTripLaws (h back : Headers) : Prop where
  /-- Under each name there are the values of the entries that may be sent, in their order. -/
  values : ∀ name, back.values name = h.sendable.values name
  /-- If all entries may be sent, names are looked up as before. -/
  get : (∀ entry ∈ h.entries, isSendable entry = true) → ∀ name, back.get? name = h.get? name
  contains : (∀ entry ∈ h.entries, isSendable entry = true) →
    ∀ name, back.contains name = h.contains name
  /-- The names are in lower case. -/
  names : ∀ entry ∈ back.entries, Text.lower entry.1 = entry.1
  /-- On a second way through a field map no name changes its values. -/
  again : ∃ again, back.roundTrip = .ok again ∧ ∀ name, again.values name = back.values name

/-- **Round trip of headers.** Every header list comes back from a field map, with the values
under each name of the entries that may be sent. -/
theorem roundTripLaws (h : Headers) : ∃ back, h.roundTrip = .ok back ∧ RoundTripLaws h back := by
  obtain ⟨back, hback⟩ := h.exists_returns
  have hget (hall : ∀ entry ∈ h.entries, isSendable entry = true) (name : String) :
      back.get? name = h.get? name := by
    rw [get?_eq_head?, get?_eq_head?, hback.values, sendable_eq_self hall]
  refine ⟨back, hback.eq_ok, hback.values, hget, fun hall name => ?_, hback.names, ?_⟩
  · rw [contains_eq, contains_eq, hget hall]
  · obtain ⟨again, hagain⟩ := back.exists_returns
    refine ⟨again, hagain.eq_ok, fun name => ?_⟩
    rw [hagain.values, sendable_eq_self fun _ => hback.isSendable]

/-- Entries of one name in several spellings come back together, and others are dropped. -/
example :
    (roundTrip ⟨[("X-B", "é"), ("a b", "1"), ("A", "1"), ("x-b", "2"), ("A", "\n")]⟩).toOption.map
      (·.entries) = some [("x-b", "é"), ("x-b", "2"), ("a", "1")] := by
  decide +kernel

end Headers

end CloudEmulator
