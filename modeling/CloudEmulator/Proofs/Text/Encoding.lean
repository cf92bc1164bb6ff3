import CloudEmulator.Text.Utf8
import Mathlib

/-!
# Texts as octets

Read strictly, octets give a text exactly where they are the octets of that text. Characters
below `0x80` are one octet each, and the octets of all others are `0x80` and above, so that a
check of single octets sees the same as a check of the ASCII characters of a text.
-/

namespace CloudEmulator.Utf8

section Character

variable {n : ℕ} {c : Char}

/-- An octet that carries the six lowest bits of `m` makes `m` of the bits above them. -/
theorem continueChar_tail {owed low top high m : ℕ} (hhigh : high = m / 64)
    (hlow : low ≤ 0x80 + m % 64) (htop : 0x80 + m % 64 ≤ top) (bytes : Bytes) :
    continueChar (owed + 1) low top high (UInt8.ofNat (0x80 + m % 64) :: bytes) =
      continueChar owed 0x80 0xBF m bytes := by
  have hoctet : (UInt8.ofNat (0x80 + m % 64)).toNat = 0x80 + m % 64 :=
    UInt8.toNat_ofNat_of_lt' (show 0x80 + m % 64 < 256 by omega)
  have hbits : high * 64 + (0x80 + m % 64 - 0x80) = m := by omega
  rw [continueChar, hoctet, if_pos ⟨hlow, htop⟩, hbits]

/-- What a first octet promises is read behind it. -/
theorem front_of_lead {owed low top high m : ℕ} (hm : m < 256) (hfirst : 0x80 ≤ m)
    (hlead : lead m = some (owed, low, top, high)) (bytes : Bytes) :
    front (UInt8.ofNat m) bytes = continueChar owed low top high bytes := by
  have hoctet : (UInt8.ofNat m).toNat = m := UInt8.toNat_ofNat_of_lt' hm
  rw [front, hoctet, if_neg (by omega), hlead]

/-- The first octet of two carries all bits but the last six. -/
theorem lead_two (hlow : 0x80 ≤ n) (hhigh : n < 0x800) :
    lead (0xC0 + n / 64) = some (1, 0x80, 0xBF, n / 64) := by
  have hfirst : ¬ 0xC0 + n / 64 < 0xC2 := by omega
  have hsecond : 0xC0 + n / 64 < 0xE0 := by omega
  rw [lead, if_neg hfirst, if_pos hsecond, Nat.add_sub_cancel_left]

/-- The first octet of three carries the highest bits of a character that is no surrogate, and
its bounds let the second octet pass. -/
theorem exists_lead_three (hlow : 0x800 ≤ n) (hhigh : n < 0x10000)
    (hvalid : n < 0xD800 ∨ 0xDFFF < n) :
    ∃ low top, lead (0xE0 + n / 4096) = some (2, low, top, n / 4096) ∧
      low ≤ 0x80 + n / 64 % 64 ∧ 0x80 + n / 64 % 64 ≤ top := by
  have hfirst : ¬ 0xE0 + n / 4096 < 0xC2 := by omega
  have hsecond : ¬ 0xE0 + n / 4096 < 0xE0 := by omega
  rw [lead, if_neg hfirst, if_neg hsecond]
  by_cases hzero : n / 4096 = 0
  · rw [hzero]
    exact ⟨0xA0, 0xBF, rfl, by omega, by omega⟩
  · by_cases hsurrogate : n / 4096 = 0xD
    · rw [hsurrogate]
      exact ⟨0x80, 0x9F, rfl, by omega, by omega⟩
    · have hbelow : 0xE0 + n / 4096 < 0xF0 := by omega
      rw [if_neg (by omega), if_neg (by omega), if_pos hbelow, Nat.add_sub_cancel_left]
      exact ⟨0x80, 0xBF, rfl, by omega, by omega⟩

/-- The first octet of four carries the highest bits of a character, and its bounds let the
second octet pass. -/
theorem exists_lead_four (hlow : 0x10000 ≤ n) (hhigh : n < 0x110000) :
    ∃ low top, lead (0xF0 + n / 262144) = some (3, low, top, n / 262144) ∧
      low ≤ 0x80 + n / 4096 % 64 ∧ 0x80 + n / 4096 % 64 ≤ top := by
  have hmore : ¬ 0xF0 + n / 262144 < 0xF0 := by omega
  rw [lead, if_neg (by omega), if_neg (by omega), if_neg (by omega), if_neg (by omega),
    if_neg hmore]
  by_cases hzero : n / 262144 = 0
  · rw [hzero]
    exact ⟨0x90, 0xBF, rfl, by omega, by omega⟩
  · by_cases hlast : n / 262144 = 4
    · rw [hlast]
      exact ⟨0x80, 0x8F, rfl, by omega, by omega⟩
    · have hbelow : 0xF0 + n / 262144 < 0xF4 := by omega
      rw [if_neg (by omega), if_pos hbelow, Nat.add_sub_cancel_left]
      exact ⟨0x80, 0xBF, rfl, by omega, by omega⟩

/-- The octets of a character are a front, which is read as that character. -/
theorem exists_front_encodeChar (c : Char) (rest : Bytes) :
    ∃ b bytes, encodeChar c ++ rest = b :: bytes ∧ front b bytes = ⟨some c, rest⟩ := by
  have hvalid : c.toNat < 0xD800 ∨ 0xDFFF < c.toNat ∧ c.toNat < 0x110000 := c.valid
  have hread (low top : ℕ) : continueChar 0 low top c.toNat rest = ⟨some c, rest⟩ := by
    rw [continueChar, Char.ofNat_toNat]
  simp only [encodeChar]
  split_ifs with hone htwo hthree
  · refine ⟨_, _, rfl, ?_⟩
    have hoctet : (UInt8.ofNat c.toNat).toNat = c.toNat :=
      UInt8.toNat_ofNat_of_lt' (show c.toNat < 256 by omega)
    rw [front, hoctet, if_pos hone, Char.ofNat_toNat]
    rfl
  · have hlead := lead_two (n := c.toNat) (by omega) htwo
    refine ⟨_, _, rfl, ?_⟩
    rw [front_of_lead (by omega) (by omega) hlead, List.append_eq, List.cons_append,
      continueChar_tail rfl (by omega) (by omega)]
    exact hread _ _
  · obtain ⟨low, top, hlead, hlow, htop⟩ := exists_lead_three (n := c.toNat) (by omega) hthree
      (by omega)
    refine ⟨_, _, rfl, ?_⟩
    rw [front_of_lead (by omega) (by omega) hlead, List.append_eq, List.cons_append,
      continueChar_tail (by omega) hlow htop, List.cons_append,
      continueChar_tail rfl (by omega) (by omega)]
    exact hread _ _
  · obtain ⟨low, top, hlead, hlow, htop⟩ := exists_lead_four (n := c.toNat) (by omega) (by omega)
    refine ⟨_, _, rfl, ?_⟩
    rw [front_of_lead (by omega) (by omega) hlead, List.append_eq, List.cons_append,
      continueChar_tail (by omega) hlow htop, List.cons_append,
      continueChar_tail (by omega) (by omega) (by omega), List.cons_append,
      continueChar_tail rfl (by omega) (by omega)]
    exact hread _ _

/-- A character below `0x80` is one octet. -/
theorem encodeChar_of_lt (hc : c.toNat < 0x80) : encodeChar c = [UInt8.ofNat c.toNat] := by
  rw [encodeChar, if_pos hc]

/-- The octets of all other characters are `0x80` and above. -/
theorem le_of_mem_encodeChar (hc : 0x80 ≤ c.toNat) {b : UInt8} (hb : b ∈ encodeChar c) :
    0x80 ≤ b.toNat := by
  have hvalid : c.toNat < 0xD800 ∨ 0xDFFF < c.toNat ∧ c.toNat < 0x110000 := c.valid
  have hoctet (m : ℕ) (hlow : 0x80 ≤ m) (hhigh : m < 256) : 0x80 ≤ (UInt8.ofNat m).toNat := by
    rw [UInt8.toNat_ofNat_of_lt' hhigh]
    exact hlow
  rw [encodeChar, if_neg (by omega)] at hb
  split_ifs at hb with htwo hthree
  all_goals
    simp only [List.mem_cons, List.not_mem_nil, or_false] at hb
    rcases hb with rfl | rfl | rfl | rfl <;> exact hoctet _ (by omega) (by omega)

end Character

section Front

variable {b : UInt8} {bytes rest : Bytes} {c : Char} {m : ℕ}

/-- A character that goes on does so with an octet within the bounds. -/
theorem exists_of_continueChar {owed low top high : ℕ}
    (h : continueChar (owed + 1) low top high bytes = ⟨some c, rest⟩) :
    ∃ b tail, bytes = b :: tail ∧ low ≤ b.toNat ∧ b.toNat ≤ top ∧
      continueChar owed 0x80 0xBF (high * 64 + (b.toNat - 0x80)) tail = ⟨some c, rest⟩ := by
  cases bytes with
  | nil => simp [continueChar] at h
  | cons b tail =>
    rw [continueChar] at h
    split_ifs at h with hbounds
    · exact ⟨b, tail, rfl, hbounds.1, hbounds.2, h⟩
    · simp at h

/-- A character that does not go on is the one of its code point. -/
theorem eq_of_continueChar {low top : ℕ} (hm : m.isValidChar)
    (h : continueChar 0 low top m bytes = ⟨some c, rest⟩) : c.toNat = m ∧ bytes = rest := by
  rw [continueChar] at h
  obtain ⟨hchar, hrest⟩ := Front.mk.inj h
  refine ⟨?_, hrest⟩
  rw [← Option.some.inj hchar, Char.toNat_ofNat, if_pos hm]

/-- An octet is the one of its number. -/
theorem ofNat_eq_of_toNat (h : b.toNat = m) : UInt8.ofNat m = b := by
  rw [← h, UInt8.ofNat_toNat]

/-- The numbers of octets, the bounds and the high bits that a first octet promises. -/
theorem lead_eq_some {owed low top high : ℕ} (h : lead m = some (owed, low, top, high)) :
    (owed = 1 ∧ m = 0xC0 + high ∧ 2 ≤ high ∧ high < 32 ∧ low = 0x80 ∧ top = 0xBF) ∨
    (owed = 2 ∧ m = 0xE0 + high ∧ high < 16 ∧ 0x80 ≤ low ∧ top ≤ 0xBF ∧
      (high = 0 → 0xA0 ≤ low) ∧ (high = 0xD → top ≤ 0x9F)) ∨
    (owed = 3 ∧ m = 0xF0 + high ∧ high ≤ 4 ∧ 0x80 ≤ low ∧ top ≤ 0xBF ∧
      (high = 0 → 0x90 ≤ low) ∧ (high = 4 → top ≤ 0x8F)) := by
  unfold lead at h
  split_ifs at h
  all_goals
    simp only [Option.some.injEq, Prod.mk.injEq] at h
    obtain ⟨rfl, rfl, rfl, rfl⟩ := h
    omega

/-- A front that is read as a character is made of the octets of that character. -/
theorem encodeChar_append_of_front (h : front b bytes = ⟨some c, rest⟩) :
    encodeChar c ++ rest = b :: bytes := by
  have hoctet := b.toNat_lt
  rw [front] at h
  split_ifs at h with hascii
  · obtain ⟨hchar, rfl⟩ := Front.mk.inj h
    have hc : c.toNat = b.toNat := by
      have hvalid : b.toNat.isValidChar := .inl (by omega)
      rw [← Option.some.inj hchar, Char.toNat_ofNat, if_pos hvalid]
    rw [encodeChar_of_lt (hc ▸ hascii), ofNat_eq_of_toNat hc.symm]
    rfl
  · cases hlead : lead b.toNat with
    | none => simp [hlead] at h
    | some promise =>
      obtain ⟨owed, low, top, high⟩ := promise
      simp only [hlead] at h
      rcases lead_eq_some hlead with ⟨rfl, hb, hbounds⟩ | ⟨rfl, hb, hbounds⟩ | ⟨rfl, hb, hbounds⟩
      · obtain ⟨b₁, _, rfl, hlow₁, htop₁, h⟩ := exists_of_continueChar h
        obtain ⟨hc, rfl⟩ := eq_of_continueChar (.inl (by omega)) h
        simp only [encodeChar]
        rw [if_neg (by omega), if_pos (by omega), ofNat_eq_of_toNat (b := b) (by omega),
          ofNat_eq_of_toNat (b := b₁) (by omega)]
        rfl
      · obtain ⟨b₁, _, rfl, hlow₁, htop₁, h⟩ := exists_of_continueChar h
        obtain ⟨b₂, _, rfl, hlow₂, htop₂, h⟩ := exists_of_continueChar h
        have hvalid : ((high * 64 + (b₁.toNat - 0x80)) * 64 + (b₂.toNat - 0x80)).isValidChar := by
          by_cases hsurrogate : high < 0xE
          · exact .inl (by omega)
          · exact .inr ⟨by omega, by omega⟩
        obtain ⟨hc, rfl⟩ := eq_of_continueChar hvalid h
        simp only [encodeChar]
        rw [if_neg (by omega), if_neg (by omega), if_pos (by omega),
          ofNat_eq_of_toNat (b := b) (by omega), ofNat_eq_of_toNat (b := b₁) (by omega),
          ofNat_eq_of_toNat (b := b₂) (by omega)]
        rfl
      · obtain ⟨b₁, _, rfl, hlow₁, htop₁, h⟩ := exists_of_continueChar h
        obtain ⟨b₂, _, rfl, hlow₂, htop₂, h⟩ := exists_of_continueChar h
        obtain ⟨b₃, _, rfl, hlow₃, htop₃, h⟩ := exists_of_continueChar h
        obtain ⟨hc, rfl⟩ := eq_of_continueChar (.inr ⟨by omega, by omega⟩) h
        simp only [encodeChar]
        rw [if_neg (by omega), if_neg (by omega), if_neg (by omega),
          ofNat_eq_of_toNat (b := b) (by omega), ofNat_eq_of_toNat (b := b₁) (by omega),
          ofNat_eq_of_toNat (b := b₂) (by omega), ofNat_eq_of_toNat (b := b₃) (by omega)]
        rfl

end Front

section Text

/-- The octets of a character in front are read as one piece. -/
theorem pieces_encodeChar_append (c : Char) (rest : Bytes) :
    pieces (encodeChar c ++ rest) = some c :: pieces rest := by
  obtain ⟨b, bytes, hbytes, hfront⟩ := exists_front_encodeChar c rest
  rw [hbytes, pieces, hfront]

/-- The octets of characters are read as these characters. -/
theorem pieces_encodeChars (cs : List Char) : pieces (encodeChars cs) = cs.map some := by
  induction cs with
  | nil => simp [encodeChars, pieces]
  | cons c cs ih =>
    rw [encodeChars, List.flatMap_cons, pieces_encodeChar_append, List.map_cons]
    exact congrArg _ ih

/-- Characters are read from their octets again. -/
theorem decode?_encodeChars (cs : List Char) :
    decode? (encodeChars cs) = some (String.ofList cs) := by
  have hall : (cs.map some).mapM id = some cs := by
    induction cs with
    | nil => rfl
    | cons c cs ih => simp [ih]
  rw [decode?, pieces_encodeChars, hall, Option.map_some]

/-- A text is read from its octets again. -/
theorem decode?_encode (s : String) : decode? (encode s) = some s := by
  rw [encode, decode?_encodeChars, String.ofList_toList]

/-- Read loosely, the octets of a text are that text, too. -/
theorem lossy_encode (s : String) : lossy (encode s) = s := by
  have hall : (s.toList.map some).map (·.getD replacement) = s.toList := by
    rw [List.map_map]
    exact List.map_id _
  rw [lossy, encode, pieces_encodeChars, hall, String.ofList_toList]

/-- Octets of which all pieces are characters are the octets of these characters. -/
theorem eq_encodeChars_of_pieces {bytes : Bytes} {cs : List Char}
    (h : (pieces bytes).mapM id = some cs) : bytes = encodeChars cs := by
  induction bytes using pieces.induct generalizing cs with
  | case1 =>
    rw [pieces] at h
    rw [← Option.some.inj h]
    rfl
  | case2 b bytes ih =>
    rw [pieces, List.mapM_cons] at h
    cases hfront : front b bytes with
    | mk char rest =>
      rw [hfront] at h ih
      cases char with
      | none => simp at h
      | some c =>
        cases hrest : (pieces rest).mapM id with
        | none => simp [hrest] at h
        | some later =>
          obtain rfl : c :: later = cs := by simpa [hrest] using h
          rw [← encodeChar_append_of_front hfront]
          exact congrArg (encodeChar c ++ ·) (ih hrest)

/-- Octets are read as a text exactly where they are the octets of that text. -/
theorem decode?_eq_some_iff {bytes : Bytes} {s : String} :
    decode? bytes = some s ↔ bytes = encode s := by
  constructor
  · intro h
    obtain ⟨cs, hcs, rfl⟩ := Option.map_eq_some_iff.mp h
    rw [encode, String.toList_ofList]
    exact eq_encodeChars_of_pieces hcs
  · rintro rfl
    exact decode?_encode s

end Text

end CloudEmulator.Utf8
