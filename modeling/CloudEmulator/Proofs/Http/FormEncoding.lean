import CloudEmulator.Http.FormEncoding
import CloudEmulator.Proofs.Associations
import CloudEmulator.Proofs.Text.Cuts
import CloudEmulator.Proofs.Text.Encoding
import CloudEmulator.Proofs.Text.Letters

/-!
# Written parameters

Parameters may be written in many ways: a space as a plus sign or as an escape, the digits of an
escape in either case. Whichever way they were written, the same pairs are read again, and of
several pairs with one key the last one counts.
-/

namespace CloudEmulator.Form

section Writing

/-- A character that stands for itself: an ASCII letter, a digit or one of four marks. -/
def isPlain (c : Char) : Bool :=
  c.isAlphanum || "-_.~".toList.contains c

/-- A hexadecimal digit of a value, in either case. -/
def IsDigit (value : ℕ) (c : Char) : Prop :=
  c = Nat.digitChar value ∨ c = (Nat.digitChar value).toUpper

/-- Octets as percent escapes. -/
inductive Escapes : Bytes → List Char → Prop
  | nil : Escapes [] []
  | cons {b : UInt8} {bytes : Bytes} {high low : Char} {cs : List Char}
      (hhigh : IsDigit (b.toNat / 16) high) (hlow : IsDigit (b.toNat % 16) low)
      (rest : Escapes bytes cs) : Escapes (b :: bytes) ('%' :: high :: low :: cs)

/-- The ways to write a key or a value. -/
inductive Writes : List Char → List Char → Prop
  | nil : Writes [] []
  | plain {c : Char} {text cs : List Char} (hc : isPlain c = true) (rest : Writes text cs) :
      Writes (c :: text) (c :: cs)
  | plus {text cs : List Char} (rest : Writes text cs) : Writes (' ' :: text) ('+' :: cs)
  | escaped {c : Char} {text escape cs : List Char}
      (hescape : Escapes (Utf8.encodeChar c) escape) (rest : Writes text cs) :
      Writes (c :: text) (escape ++ cs)

/-- A key and a value, each written in one of its ways, with a sign between them. -/
def WritesPair (pair : String × String) (cs : List Char) : Prop :=
  ∃ key value, Writes pair.1.toList key ∧ Writes pair.2.toList value ∧ cs = key ++ '=' :: value

/-- Pairs, each written in one of its ways, with a mark between them. -/
def WritesQuery (params : List (String × String)) (query : String) : Prop :=
  ∃ parts, List.Forall₂ WritesPair params parts ∧ query.toList = ['&'].intercalate parts

end Writing

section Characters

variable {c : Char} {value : ℕ} {bytes : Bytes} {text cs : List Char}

/-- Plain characters are ASCII. -/
theorem toNat_lt_of_isPlain (hc : isPlain c = true) : c.toNat < 0x80 := by
  rcases Bool.or_eq_true_iff.mp hc with halphanum | hmark
  · exact Text.toNat_lt_of_isAlphanum halphanum
  · have hmarks : "-_.~".toList.all (fun m => m.toNat < 0x80) = true := by decide
    exact of_decide_eq_true (List.all_eq_true.mp hmarks c (List.contains_iff_mem.mp hmark))

/-- The digits of a value are plain, and are read as that value. -/
theorem IsDigit.read (h : IsDigit value c) (hvalue : value < 16) :
    isPlain c = true ∧ hexValue? (UInt8.ofNat c.toNat) = some value := by
  have hlower : ∀ v < 16, isPlain (Nat.digitChar v) = true ∧
      hexValue? (UInt8.ofNat (Nat.digitChar v).toNat) = some v := by decide
  have hupper : ∀ v < 16, isPlain (Nat.digitChar v).toUpper = true ∧
      hexValue? (UInt8.ofNat (Nat.digitChar v).toUpper.toNat) = some v := by decide
  rcases h with rfl | rfl
  · exact hlower value hvalue
  · exact hupper value hvalue

/-- Escapes are made of plain characters and percent signs. -/
theorem Escapes.chars (h : Escapes bytes cs) : ∀ c ∈ cs, isPlain c = true ∨ c = '%' := by
  induction h with
  | nil => simp
  | @cons b bytes high low cs hhigh hlow _ ih =>
    have hbound := b.toNat_lt
    intro c hc
    simp only [List.mem_cons] at hc
    rcases hc with rfl | rfl | rfl | hlater
    · exact .inr rfl
    · exact .inl (hhigh.read (by omega)).1
    · exact .inl (hlow.read (by omega)).1
    · exact ih c hlater

/-- What is written is made of plain characters, percent signs and plus signs. -/
theorem Writes.chars (h : Writes text cs) :
    ∀ c ∈ cs, isPlain c = true ∨ c = '%' ∨ c = '+' := by
  induction h with
  | nil => simp
  | plain hc _ ih => exact List.forall_mem_cons.mpr ⟨.inl hc, ih⟩
  | plus _ ih => exact List.forall_mem_cons.mpr ⟨.inr (.inr rfl), ih⟩
  | escaped hescape _ ih =>
    refine List.forall_mem_append.mpr ⟨fun c hc => ?_, ih⟩
    exact (hescape.chars c hc).imp_right .inl

/-- What is written holds none of the marks that pairs are split at. -/
theorem Writes.notMem (h : Writes text cs) : '&' ∉ cs ∧ '=' ∉ cs := by
  refine ⟨fun hmem => ?_, fun hmem => ?_⟩
  · exact absurd (h.chars _ hmem) (by decide)
  · exact absurd (h.chars _ hmem) (by decide)

end Characters

section Reading

variable {bytes rest : Bytes} {text cs : List Char}

/-- Read a plus sign as a space. -/
def unplus (c : Char) : Char :=
  if c == '+' then ' ' else c

/-- Plain characters are not read as others. -/
theorem unplus_of_isPlain {c : Char} (hc : isPlain c = true) : unplus c = c := by
  have hplus : c ≠ '+' := by
    rintro rfl
    exact absurd hc (by decide)
  rw [unplus, if_neg (by simpa using hplus)]

/-- An octet that begins no escape stays as it is. -/
theorem unescape_cons_of_ne {b : UInt8} (hb : b ≠ 37) (rest : Bytes) :
    unescape (b :: rest) = b :: unescape rest :=
  unescape.eq_2 b rest fun _ _ _ hpercent _ => hb hpercent

/-- An escape becomes the octet that its digits tell. -/
theorem unescape_escape {b x y : UInt8} (hx : hexValue? x = some (b.toNat / 16))
    (hy : hexValue? y = some (b.toNat % 16)) (rest : Bytes) :
    unescape (37 :: x :: y :: rest) = b :: unescape rest := by
  have hoctet : b.toNat / 16 * 16 + b.toNat % 16 = b.toNat := by omega
  rw [unescape, hx, hy]
  simp only [hoctet, UInt8.ofNat_toNat]

/-- A plain character is an octet that begins no escape. -/
theorem unescape_plain {c : Char} (hc : isPlain c = true) (rest : Bytes) :
    unescape (Utf8.encodeChar c ++ rest) = Utf8.encodeChar c ++ unescape rest := by
  have hascii : c.toNat < 0x80 := toNat_lt_of_isPlain hc
  have hpercent : UInt8.ofNat c.toNat ≠ 37 := by
    intro heq
    have hnat : c.toNat = 37 := by
      have htoNat := congrArg UInt8.toNat heq
      rwa [UInt8.toNat_ofNat_of_lt' (show c.toNat < 256 by omega)] at htoNat
    have hchar : c = '%' := by rw [← Char.ofNat_toNat c, hnat]
    rw [hchar] at hc
    exact absurd hc (by decide)
  rw [Utf8.encodeChar_of_lt hascii]
  exact unescape_cons_of_ne hpercent rest

/-- The octets of characters, one after the other. -/
theorem encodeChars_cons (c : Char) (cs : List Char) :
    Utf8.encodeChars (c :: cs) = Utf8.encodeChar c ++ Utf8.encodeChars cs :=
  List.flatMap_cons

/-- Escapes are undone, whatever follows them. -/
theorem Escapes.unescape_append (h : Escapes bytes cs) (rest : List Char) :
    unescape (Utf8.encodeChars ((cs ++ rest).map unplus)) =
      bytes ++ unescape (Utf8.encodeChars (rest.map unplus)) := by
  induction h with
  | nil => rfl
  | @cons b bytes high low cs hhigh hlow _ ih =>
    have hbound := b.toNat_lt
    obtain ⟨hplain, hread⟩ := hhigh.read (by omega)
    obtain ⟨hplain', hread'⟩ := hlow.read (by omega)
    have hoctets : Utf8.encodeChars ((('%' :: high :: low :: cs) ++ rest).map unplus) =
        37 :: UInt8.ofNat high.toNat :: UInt8.ofNat low.toNat ::
          Utf8.encodeChars ((cs ++ rest).map unplus) := by
      rw [List.cons_append, List.cons_append, List.cons_append, List.map_cons, List.map_cons,
        List.map_cons, unplus_of_isPlain hplain, unplus_of_isPlain hplain', encodeChars_cons,
        encodeChars_cons, encodeChars_cons,
        Utf8.encodeChar_of_lt (toNat_lt_of_isPlain hplain),
        Utf8.encodeChar_of_lt (toNat_lt_of_isPlain hplain')]
      rfl
    rw [hoctets, unescape_escape hread hread', ih, List.cons_append]

/-- What was written is undone to the octets of the text. -/
theorem Writes.unescape_eq (h : Writes text cs) :
    unescape (Utf8.encodeChars (cs.map unplus)) = Utf8.encodeChars text := by
  induction h with
  | nil => rfl
  | plain hc _ ih =>
    rw [List.map_cons, unplus_of_isPlain hc, encodeChars_cons, unescape_plain hc, ih,
      encodeChars_cons]
  | plus _ ih =>
    rw [List.map_cons, encodeChars_cons, encodeChars_cons, ← ih]
    exact unescape_cons_of_ne (by decide) _
  | escaped hescape _ ih => rw [hescape.unescape_append, ih, encodeChars_cons]

/-- A key or a value is read as it was before it was written. -/
theorem decodePart_of_writes {s : String} (h : Writes s.toList cs) : decodePart cs = s := by
  have hread : Utf8.decode? (unescape (Utf8.encodeChars (cs.map unplus))) = some s := by
    rw [h.unescape_eq, Utf8.decode?_encodeChars, String.ofList_toList]
  change (Utf8.decode? (unescape (Utf8.encodeChars (cs.map unplus)))).getD _ = s
  rw [hread, Option.getD_some]

/-- A written pair is not empty, does not hold the mark between pairs, and is read again. -/
theorem WritesPair.read {pair : String × String} (h : WritesPair pair cs) :
    cs.isEmpty = false ∧ '&' ∉ cs ∧ decodePair cs = pair := by
  obtain ⟨key, value, hkey, hvalue, rfl⟩ := h
  refine ⟨by simp, ?_, ?_⟩
  · simp [hkey.notMem.1, hvalue.notMem.1]
  · rw [decodePair, Text.splitOnce_append hkey.notMem.2]
    simp only [Option.getD_some, decodePart_of_writes hkey, decodePart_of_writes hvalue]

/-- The pairs of a query are read as they were before they were written. -/
theorem pairs_of_writesQuery {params : List (String × String)} {query : String}
    (h : WritesQuery params query) : pairs query = params := by
  obtain ⟨parts, hparts, hquery⟩ := h
  have hread : (∀ part ∈ parts, part.isEmpty = false ∧ '&' ∉ part) ∧
      parts.map decodePair = params := by
    clear hquery
    induction hparts with
    | nil => exact ⟨by simp, rfl⟩
    | cons hpair _ ih =>
      obtain ⟨hne, hmark, hdecode⟩ := hpair.read
      exact ⟨List.forall_mem_cons.mpr ⟨⟨hne, hmark⟩, ih.1⟩, by rw [List.map_cons, hdecode, ih.2]⟩
  obtain ⟨hplain, hdecode⟩ := hread
  rw [pairs, hquery]
  by_cases hnone : parts = []
  · subst hnone
    rw [← hdecode]
    rfl
  · have hkept : parts.filter (fun part => !part.isEmpty) = parts :=
      List.filter_eq_self.mpr fun part hpart => by rw [(hplain part hpart).1]; rfl
    rw [List.splitOn_intercalate '&' (fun part hpart => (hplain part hpart).2) hnone, hkept,
      hdecode]

end Reading

section Deciding

/-- To set a parameter is to change its value to the one that is set. -/
theorem set_eq_update (key value : String) (params : Parameters) :
    set key value params = Associations.update key (fun _ => value) params := by
  induction params with
  | nil => rfl
  | cons first params ih =>
    obtain ⟨k, v⟩ := first
    rw [set, Associations.update, ih]
    by_cases hk : k = key
    · rw [hk]
    · rw [if_neg (by simpa using hk), if_neg (by simpa using hk)]

/-- A parameter has the value of the last pair with its key. -/
theorem lookup_decode (query key : String) :
    (decode query).lookup key = ((pairs query).filter (·.1 == key)).getLast?.map (·.2) := by
  rw [decode]
  induction pairs query using List.reverseRecOn with
  | nil => rfl
  | append_singleton front last ih =>
    rw [List.foldl_concat, set_eq_update, Associations.lookup_update, ih, List.filter_append]
    by_cases hkey : key = last.1
    · simp [hkey]
    · have hlast : (last.1 == key) = false := beq_eq_false_iff_ne.mpr fun heq => hkey heq.symm
      simp [hkey, hlast]

/-- The parameters of a query have different names. -/
theorem nodup_names_decode (query : String) : ((decode query).map (·.1)).Nodup := by
  rw [decode]
  induction pairs query using List.reverseRecOn with
  | nil => exact List.nodup_nil
  | append_singleton front last ih =>
    rw [List.foldl_concat, set_eq_update]
    exact Associations.nodup_keys_update ih

/-- The names of the parameters are the keys of the pairs. -/
theorem mem_names_decode (query name : String) :
    name ∈ (decode query).map (·.1) ↔ name ∈ (pairs query).map (·.1) := by
  rw [decode]
  induction pairs query using List.reverseRecOn with
  | nil => rfl
  | append_singleton front last ih =>
    rw [List.foldl_concat, set_eq_update, Associations.mem_keys_update, ih, List.map_append,
      List.mem_append]
    simp [or_comm]

end Deciding

section Existence

/-- All octets can be written as escapes. -/
theorem exists_escapes (bytes : Bytes) : ∃ cs, Escapes bytes cs := by
  induction bytes with
  | nil => exact ⟨[], .nil⟩
  | cons b bytes ih =>
    obtain ⟨cs, hcs⟩ := ih
    exact ⟨_, .cons (.inl rfl) (.inl rfl) hcs⟩

/-- Every key and value can be written. -/
theorem exists_writes (text : List Char) : ∃ cs, Writes text cs := by
  induction text with
  | nil => exact ⟨[], .nil⟩
  | cons c text ih =>
    obtain ⟨cs, hcs⟩ := ih
    obtain ⟨escape, hescape⟩ := exists_escapes (Utf8.encodeChar c)
    exact ⟨_, .escaped hescape hcs⟩

/-- All pairs can be written. -/
theorem exists_writesQuery (params : List (String × String)) :
    ∃ query, WritesQuery params query := by
  have hparts : ∃ parts, List.Forall₂ WritesPair params parts := by
    induction params with
    | nil => exact ⟨[], .nil⟩
    | cons pair params ih =>
      obtain ⟨parts, hparts⟩ := ih
      obtain ⟨key, hkey⟩ := exists_writes pair.1.toList
      obtain ⟨value, hvalue⟩ := exists_writes pair.2.toList
      exact ⟨_, .cons ⟨key, value, hkey, hvalue, rfl⟩ hparts⟩
  obtain ⟨parts, hparts⟩ := hparts
  exact ⟨String.ofList (['&'].intercalate parts), parts, hparts, String.toList_ofList⟩

end Existence

/-- What is read of written parameters. -/
structure FormLaws (params : List (String × String)) : Prop where
  /-- There is a way to write the parameters. -/
  written : ∃ query, WritesQuery params query
  /-- However they are written, the same pairs are read, in their order. -/
  pairs : ∀ query, WritesQuery params query → Form.pairs query = params
  /-- Each key has the value of its last pair, and a key without a pair has none. -/
  lookup : ∀ query, WritesQuery params query → ∀ key, (decode query).lookup key =
    (params.filter (·.1 == key)).getLast?.map (·.2)
  /-- The keys are those of the pairs, each of them once. -/
  nodup : ∀ query, WritesQuery params query → ((decode query).map (·.1)).Nodup
  keys : ∀ query, WritesQuery params query → ∀ key,
    key ∈ (decode query).map (·.1) ↔ key ∈ params.map (·.1)

/-- **Form encoding.** Parameters are read as they were before they were written: each key has
the value of its last pair, and there are no other keys. -/
theorem formLaws (params : List (String × String)) : FormLaws params where
  written := exists_writesQuery params
  pairs := fun _ => pairs_of_writesQuery
  lookup := by
    intro query hquery key
    rw [lookup_decode, pairs_of_writesQuery hquery]
  nodup := fun query _ => nodup_names_decode query
  keys := by
    intro query hquery key
    rw [mem_names_decode, pairs_of_writesQuery hquery]

/-- Delimiters, signs and characters of several octets within keys and values are read again. -/
example : decode "a%26=%2b+%3D&%C3%a9=%25&=&a%26=%E6%97%a5+x" =
    [("a&", "日 x"), ("é", "%"), ("", "")] := by
  decide +kernel

end CloudEmulator.Form
