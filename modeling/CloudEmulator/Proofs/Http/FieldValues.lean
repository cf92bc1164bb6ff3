import CloudEmulator.Http.FieldMap
import CloudEmulator.Proofs.Associations
import CloudEmulator.Proofs.Http.HeaderInsertion
import CloudEmulator.Proofs.Text.Encoding
import CloudEmulator.Proofs.Text.Letters

/-!
# The values of fields

A field map holds the values of each name in the order in which they were added, whatever was
added under other names in between. A map made of a header list holds exactly the entries that
may be sent, with the names in lower case.
-/

namespace CloudEmulator

namespace Http

/-- A character that the value of a field may hold: no control character but the tab. -/
def isFieldChar (c : Char) : Bool :=
  c == '\t' || (32 ≤ c.toNat && c.toNat != 127)

/-- The octets of a character may be sent exactly if the character may. -/
theorem all_isFieldOctet_encodeChar (c : Char) :
    (Utf8.encodeChar c).all isFieldOctet = isFieldChar c := by
  have htab : c = '\t' ↔ c.toNat = 9 := by
    refine ⟨fun h => h ▸ rfl, fun h => ?_⟩
    rw [← Char.ofNat_toNat c, h]
  by_cases hascii : c.toNat < 0x80
  · have hoctet : (UInt8.ofNat c.toNat).toNat = c.toNat :=
      UInt8.toNat_ofNat_of_lt' (show c.toNat < 256 by omega)
    rw [Utf8.encodeChar_of_lt hascii, Bool.eq_iff_iff]
    simp [isFieldOctet, isFieldChar, hoctet, htab, or_comm]
  · have hoctets : ∀ b ∈ Utf8.encodeChar c, isFieldOctet b = true := by
      intro b hb
      have hhigh := Utf8.le_of_mem_encodeChar (by omega) hb
      simp only [isFieldOctet, Bool.or_eq_true, Bool.and_eq_true, decide_eq_true_eq, bne_iff_ne]
      omega
    have hchar : isFieldChar c = true := by
      simp only [isFieldChar, Bool.or_eq_true, Bool.and_eq_true, decide_eq_true_eq, bne_iff_ne]
      omega
    rw [hchar, List.all_eq_true]
    exact hoctets

/-- A text may be sent as a value exactly if all of its characters may. -/
theorem isFieldValue_encode (s : String) :
    isFieldValue (Utf8.encode s) = s.toList.all isFieldChar := by
  rw [isFieldValue, Utf8.encode, Utf8.encodeChars, List.all_flatMap]
  simp only [all_isFieldOctet_encodeChar]

/-- A character of a token is one in lower case, too. -/
theorem isTokenChar_toLower {c : Char} (h : isTokenChar c = true) :
    isTokenChar c.toLower = true := by
  rcases Bool.or_eq_true_iff.mp h with halphanum | hmark
  · exact Bool.or_eq_true_iff.mpr (.inl (Text.isAlphanum_toLower halphanum))
  · have hmarks : "!#$%&'*+-.^_\x60|~".toList.all (fun m => isTokenChar m.toLower) = true := by
      decide
    exact List.all_eq_true.mp hmarks c (List.contains_iff_mem.mp hmark)

/-- A name of a field is one in lower case, too. -/
theorem isFieldName_lower {s : String} (h : isFieldName s = true) :
    isFieldName (Text.lower s) = true := by
  obtain ⟨htoken, hlength⟩ := Bool.and_eq_true_iff.mp h
  obtain ⟨hne, hchars⟩ := Bool.and_eq_true_iff.mp htoken
  have hne' : s ≠ "" := by simpa using hne
  have hlower : (Text.lower s).length = s.length := by
    rw [Text.lower, String.length_ofList, List.length_map, String.length_toList]
  refine Bool.and_eq_true_iff.mpr ⟨Bool.and_eq_true_iff.mpr ⟨?_, ?_⟩, ?_⟩
  · simpa [Text.lower] using hne'
  · rw [Text.lower, String.toList_ofList, List.all_map]
    rw [List.all_eq_true] at hchars ⊢
    exact fun c hc => isTokenChar_toLower (hchars c hc)
  · rw [hlower]
    exact hlength

end Http

namespace Headers

/-- An entry that may be sent: its name is the name of a field, and its value a field value. -/
def isSendable (entry : String × String) : Bool :=
  Http.isFieldName entry.1 && entry.2.toList.all Http.isFieldChar

/-- The entries of a list that may be sent. -/
def sendable (h : Headers) : Headers :=
  ⟨h.entries.filter isSendable⟩

end Headers

namespace FieldMap

variable {m : FieldMap} {name other : String} {value : Bytes}

/-- A map as it is made by adding and setting values: each of its names is in lower case and
stands once. -/
structure Proper (m : FieldMap) : Prop where
  nodup : (m.fields.map (·.1)).Nodup
  lower : ∀ field ∈ m.fields, Text.lower field.1 = field.1

/-- All values that are sent under a name, in any spelling. -/
def sent (m : FieldMap) (name : String) : List Bytes :=
  (m.toList.filter fun entry => Text.sameName entry.1 name).map (·.2)

section Values

/-- To add a value is to put it behind the values of its name. -/
theorem appendField_eq_update (name : String) (value : Bytes)
    (fields : List (String × List Bytes)) : appendField name value fields =
      Associations.update name (fun values => values.getD [] ++ [value]) fields := by
  induction fields with
  | nil => rfl
  | cons field fields ih =>
    obtain ⟨n, ns⟩ := field
    rw [appendField, Associations.update, ih]
    rfl

/-- A value that was added is the last of its name, and other names have the values of before. -/
theorem values_append (m : FieldMap) (name : String) (value : Bytes) (other : String) :
    (m.append name value).values other =
      m.values other ++ if other = name then [value] else [] := by
  rw [values, append, appendField_eq_update, Associations.lookup_update]
  by_cases hother : other = name
  · subst hother
    simp [values]
  · simp [values, hother]

/-- A name that was dropped has no values, and other names have those of before. -/
theorem values_erase (m : FieldMap) (name other : String) :
    (m.erase name).values other = if other = name then [] else m.values other := by
  rw [values, erase, Associations.lookup_filter_ne]
  by_cases hother : other = name <;> simp [values, hother]

/-- A name that a replaced field has is found with the new value, and others as before. -/
theorem lookup_map_replace (name : String) (value : Bytes) (other : String)
    (fields : List (String × List Bytes)) :
    (fields.map fun f => if f.1 == name then (name, [value]) else f).lookup other =
      if other = name then (fields.lookup name).map fun _ => [value] else fields.lookup other := by
  induction fields with
  | nil => simp
  | cons field fields ih =>
    obtain ⟨n, ns⟩ := field
    rw [List.map_cons]
    by_cases hn : n = name
    · subst hn
      rw [if_pos (beq_self_eq_true n), List.lookup_cons, ih]
      by_cases hother : other = n
      · simp [hother]
      · simp [List.lookup_cons, hother, beq_eq_false_iff_ne.mpr hother]
    · have hskip : (name == n) = false := beq_eq_false_iff_ne.mpr (Ne.symm hn)
      rw [if_neg (by simpa using hn), List.lookup_cons, ih, List.lookup_cons, List.lookup_cons,
        hskip]
      by_cases hother : other = n
      · subst hother
        simp [hn]
      · rw [beq_eq_false_iff_ne.mpr hother]

/-- A value that was set is the only one of its name, and other names have the values of
before. -/
theorem values_insert (m : FieldMap) (name : String) (value : Bytes) (other : String) :
    (m.insert name value).values other = if other = name then [value] else m.values other := by
  rw [insert]
  split
  next hfound =>
    obtain ⟨field, hfield, hname⟩ := List.any_eq_true.mp hfound
    have hsome : (m.fields.lookup name).isSome = true :=
      List.lookup_isSome_iff.mpr ⟨field, hfield, by rw [beq_iff_eq.mp hname, beq_self_eq_true]⟩
    obtain ⟨old, hold⟩ := Option.isSome_iff_exists.mp hsome
    simp only [values, lookup_map_replace, hold, Option.map_some]
    by_cases hother : other = name <;> simp [hother]
  next hmissing =>
    have hnone : m.values name = [] := by
      have hlookup : m.fields.lookup name = none := by
        refine List.lookup_eq_none_iff.mpr fun field hfield => bne_iff_ne.mpr fun heq => ?_
        exact hmissing (List.any_eq_true.mpr ⟨field, hfield, beq_iff_eq.mpr heq.symm⟩)
      rw [values, hlookup, Option.getD_none]
    rw [values_append]
    by_cases hother : other = name
    · rw [if_pos hother, if_pos hother, hother, hnone, List.nil_append]
    · rw [if_neg hother, if_neg hother, List.append_nil]

/-- A map of some entries holds the values of those with a name, in their order. -/
theorem values_ofList (entries : List (String × Bytes)) (name : String) :
    (ofList entries).values name =
      (entries.filter fun entry => Text.lower entry.1 == name).map (·.2) := by
  rw [ofList]
  induction entries using List.reverseRecOn with
  | nil => rfl
  | append_singleton front last ih =>
    rw [List.foldl_concat, values_append, ih, List.filter_append, List.map_append]
    by_cases hname : name = Text.lower last.1
    · simp [hname]
    · have hlast : (Text.lower last.1 == name) = false :=
        beq_eq_false_iff_ne.mpr (Ne.symm hname)
      simp [hname, hlast]

end Values

section Proper

/-- A map stays proper when a value is added under a name in lower case. -/
theorem Proper.append (h : m.Proper) (hname : Text.lower name = name) (value : Bytes) :
    (m.append name value).Proper := by
  rw [FieldMap.append, appendField_eq_update]
  refine ⟨Associations.nodup_keys_update h.nodup, fun field hfield => ?_⟩
  rcases Associations.mem_keys_update.mp (List.mem_map_of_mem hfield) with hnew | hold
  · rw [hnew, hname]
  · obtain ⟨old, hmem, heq⟩ := List.mem_map.mp hold
    rw [← heq]
    exact h.lower old hmem

/-- A map stays proper when a name is dropped. -/
theorem Proper.erase (h : m.Proper) (name : String) : (m.erase name).Proper where
  nodup := h.nodup.sublist (List.filter_sublist.map _)
  lower := fun field hfield => h.lower field (List.mem_of_mem_filter hfield)

/-- A map stays proper when a value is set under a name in lower case. -/
theorem Proper.insert (h : m.Proper) (hname : Text.lower name = name) (value : Bytes) :
    (m.insert name value).Proper := by
  rw [FieldMap.insert]
  split
  next =>
    have hnames : (m.fields.map fun f => if f.1 == name then (name, [value]) else f).map (·.1) =
        m.fields.map (·.1) := by
      rw [List.map_map]
      refine List.map_congr_left fun field _ => ?_
      by_cases hfield : field.1 = name <;> simp [hfield]
    refine ⟨hnames ▸ h.nodup, fun field hfield => ?_⟩
    have hmem := List.mem_map_of_mem (f := (·.1)) hfield
    rw [hnames] at hmem
    obtain ⟨old, hold, heq⟩ := List.mem_map.mp hmem
    rw [← heq]
    exact h.lower old hold
  next => exact h.append hname value

/-- A map of some entries is proper. -/
theorem proper_ofList (entries : List (String × Bytes)) : (ofList entries).Proper := by
  rw [ofList]
  induction entries using List.reverseRecOn with
  | nil => exact ⟨List.nodup_nil, by simp⟩
  | append_singleton front last ih =>
    rw [List.foldl_concat]
    exact ih.append (Text.lower_lower last.1) last.2

end Proper

section Sent

/-- A value that is sent is one of its name. -/
theorem mem_sent {entry : String × Bytes} (h : entry ∈ m.toList) : entry.2 ∈ m.sent entry.1 := by
  have hself : Text.sameName entry.1 entry.1 = true := Text.lower_eq_iff.mp rfl
  exact List.mem_map_of_mem (List.mem_filter.mpr ⟨h, hself⟩)

/-- A proper map sends names in lower case. -/
theorem Proper.lower_of_mem {entry : String × Bytes} (h : m.Proper) (hmem : entry ∈ m.toList) :
    Text.lower entry.1 = entry.1 := by
  obtain ⟨field, hfield, hentry⟩ := List.mem_flatMap.mp hmem
  obtain ⟨_, -, rfl⟩ := List.mem_map.mp hentry
  exact h.lower field hfield

/-- A proper map sends under a name the values that it holds under that name in lower case. -/
theorem Proper.sent_eq (h : m.Proper) (name : String) :
    m.sent name = m.values (Text.lower name) := by
  obtain ⟨fields⟩ := m
  obtain ⟨hnodup, hlower⟩ := h
  simp only [sent, toList, values] at hnodup hlower ⊢
  induction fields with
  | nil => rfl
  | cons field fields ih =>
    obtain ⟨n, ns⟩ := field
    obtain ⟨hfirst, hrest⟩ := List.nodup_cons.mp hnodup
    obtain ⟨hn, hlater⟩ := List.forall_mem_cons.mp hlower
    have hfield : (ns.map (n, ·)).filter (fun entry => Text.sameName entry.1 name) =
        if n = Text.lower name then ns.map (n, ·) else [] := by
      have hsame : Text.sameName n name = true ↔ n = Text.lower name := by
        rw [← Text.lower_eq_iff, hn]
      split_ifs with hname
      · refine List.filter_eq_self.mpr fun entry hentry => ?_
        obtain ⟨_, -, rfl⟩ := List.mem_map.mp hentry
        exact hsame.mpr hname
      · refine List.filter_eq_nil_iff.mpr fun entry hentry => ?_
        obtain ⟨_, -, rfl⟩ := List.mem_map.mp hentry
        exact fun htrue => hname (hsame.mp htrue)
    rw [List.flatMap_cons, List.filter_append, List.map_append, ih hrest hlater, hfield]
    by_cases hname : n = Text.lower name
    · subst hname
      have hnone : fields.lookup (Text.lower name) = none := by
        refine List.lookup_eq_none_iff.mpr fun field hmem => bne_iff_ne.mpr fun heq => ?_
        exact hfirst (List.mem_map.mpr ⟨field, hmem, heq.symm⟩)
      rw [if_pos rfl, hnone, List.lookup_cons_self, List.map_map]
      simp [Function.comp_def]
    · rw [if_neg hname, List.lookup_cons, beq_eq_false_iff_ne.mpr (Ne.symm hname)]
      rfl

/-- The entries of a header list are valid as raw ones exactly if they may be sent. -/
theorem isValid_encode (entry : String × String) :
    isValid (entry.1, Utf8.encode entry.2) = Headers.isSendable entry := by
  rw [isValid, Http.isFieldValue_encode, Headers.isSendable]

/-- A map of a header list is proper. -/
theorem proper_ofHeaders (h : Headers) : (ofHeaders h).Proper :=
  proper_ofList _

/-- A map of a header list sends under a name the values of the entries that may be sent, in
their order. -/
theorem sent_ofHeaders (h : Headers) (name : String) :
    (ofHeaders h).sent name = (h.sendable.values name).map Utf8.encode := by
  have hvalid : isValid ∘ (fun entry : String × String => (entry.1, Utf8.encode entry.2)) =
      Headers.isSendable := funext isValid_encode
  have hnamed : (fun entry : String × Bytes => Text.lower entry.1 == Text.lower name) ∘
      (fun entry : String × String => (entry.1, Utf8.encode entry.2)) = Headers.named name := by
    funext entry
    exact Bool.eq_iff_iff.mpr (beq_iff_eq.trans Headers.named_iff.symm)
  rw [(proper_ofHeaders h).sent_eq, ofHeaders, values_ofList, List.filter_map, hvalid,
    List.filter_map, hnamed, List.map_map, Headers.values, Headers.sendable, List.map_map]
  rfl

end Sent

end FieldMap

end CloudEmulator
