import CloudEmulator.Proofs.Pattern.SteadyReaders

/-!
# Reading alternatives, without a bound

The reader of alternatives takes a bound on its steps. `Reads` says what it does
without one, rule by rule: every text has enough characters for its own reading, so
the two agree.
-/

namespace CloudEmulator.Pattern

open Fallible

/-- Reading goes from one state to the end of the alternatives. -/
inductive Reads : Reader → Reader → Prop where
  /-- The text, or the group, is at its end. -/
  | stop {r : Reader} {rest : List Char} :
      readNext r.flags r.rest = .ok (.stop, rest) →
      Reads r { r with rest, done := r.parts :: r.done, parts := [] }
  /-- Another alternative begins. -/
  | bar {r s : Reader} {rest : List Char} :
      readNext r.flags r.rest = .ok (.bar, rest) →
      Reads { r with rest, done := r.parts :: r.done, parts := [] } s → Reads r s
  /-- A group is read up to the bracket that closes it. -/
  | group {r inner s : Reader} {rest after : List Char} {flags : Flags} {name : Option (List Char)}
      {names : List (List Char)} :
      readNext r.flags r.rest = .ok (.group flags name, rest) → addName r.names name = .ok names →
      Reads (.begin rest flags names) inner → inner.rest = ')' :: after →
      Reads { r with rest := after, names := inner.names,
                     parts := (Part.ofAlternatives inner.done).group :: r.parts } s →
      Reads r s
  /-- A piece of the current alternative is read. -/
  | piece {r s : Reader} {rest : List Char} {flags : Flags} {piece : Piece} {parts : List Part} :
      readNext r.flags r.rest = .ok (.piece flags piece, rest) →
      piece.addTo r.parts = .ok parts → Reads { r with rest, flags, parts } s → Reads r s

/-- What the reader of alternatives does follows the rules. -/
theorem reads_of_readAlternatives {fuel : Nat} {r s : Reader}
    (h : readAlternatives fuel r = .ok s) : Reads r s := by
  induction fuel generalizing r s with
  | zero => cases h
  | succ fuel ih =>
    obtain ⟨⟨next, rest⟩, hnext, h⟩ := bind_eq_ok.mp h
    cases next with
    | stop =>
      cases h
      exact .stop hnext
    | bar => exact .bar hnext (ih h)
    | group flags name =>
      obtain ⟨names, hnames, h⟩ := bind_eq_ok.mp h
      obtain ⟨inner, hinner, h⟩ := bind_eq_ok.mp h
      split at h
      next after hafter => exact .group hnext hnames (ih hinner) hafter (ih h)
      next => cases h
    | piece flags piece =>
      obtain ⟨parts, hparts, h⟩ := bind_eq_ok.mp h
      exact .piece hnext hparts (ih h)

namespace Reads

variable {r s : Reader}

/-- Reading leaves a part of its text. -/
theorem suffix (h : Reads r s) : s.rest <:+ r.rest := by
  induction h with
  | stop hnext => exact (readNext_steady _).suffix hnext
  | bar hnext _ ih => exact ih.trans ((readNext_steady _).suffix hnext)
  | group hnext _ _ hafter _ ihinner ih =>
    rw [hafter] at ihinner
    exact (ih.trans (List.suffix_cons ..)).trans
      (ihinner.trans ((readNext_steady _).suffix hnext))
  | piece hnext _ _ ih => exact ih.trans ((readNext_steady _).suffix hnext)

/-- What follows the rules is read within as many steps as the text has characters. -/
theorem readAlternatives {fuel : Nat} (h : Reads r s) (hfuel : r.rest.length < fuel) :
    Pattern.readAlternatives fuel r = .ok s := by
  induction h generalizing fuel with
  | stop hnext =>
    obtain ⟨fuel, rfl⟩ := Nat.exists_eq_add_one_of_ne_zero (Nat.ne_zero_of_lt hfuel)
    exact bind_eq_ok.mpr ⟨_, hnext, rfl⟩
  | bar hnext _ ih =>
    obtain ⟨fuel, rfl⟩ := Nat.exists_eq_add_one_of_ne_zero (Nat.ne_zero_of_lt hfuel)
    have hshorter := length_lt_of_readNext hnext nofun
    exact bind_eq_ok.mpr ⟨_, hnext, ih (by simp only; omega)⟩
  | group hnext hnames hinner hafter _ ihinner ih =>
    obtain ⟨fuel, rfl⟩ := Nat.exists_eq_add_one_of_ne_zero (Nat.ne_zero_of_lt hfuel)
    have hshorter := length_lt_of_readNext hnext nofun
    have hbetween := hinner.suffix.length_le
    rw [hafter, List.length_cons] at hbetween
    refine bind_eq_ok.mpr ⟨_, hnext, bind_eq_ok.mpr ⟨_, hnames, bind_eq_ok.mpr ⟨_, ihinner ?_, ?_⟩⟩⟩
    · simp only [Reader.begin]
      omega
    · rw [hafter]
      simp only [Reader.begin] at hbetween
      exact ih (by simp only; omega)
  | piece hnext hparts _ ih =>
    obtain ⟨fuel, rfl⟩ := Nat.exists_eq_add_one_of_ne_zero (Nat.ne_zero_of_lt hfuel)
    have hshorter := length_lt_of_readNext hnext nofun
    exact bind_eq_ok.mpr ⟨_, hnext, bind_eq_ok.mpr ⟨_, hparts, ih (by simp only; omega)⟩⟩

/-- Having stopped in front of a closing bracket at the end of the text, reading goes the
same way whatever else closes the text. -/
theorem replace {cs rest tail : List Char} (h : Reads r s) (hr : r.rest = cs ++ [')'])
    (hs : s.rest = rest ++ [')']) (htail : Closing tail) :
    Reads { r with rest := cs ++ tail } { s with rest := rest ++ tail } := by
  induction h generalizing cs rest with
  | stop hnext =>
    simp only at hs
    rw [hr, hs] at hnext
    exact .stop ((readNext_steady _).replace hnext htail)
  | @bar r s mid hnext hlater ih =>
    obtain ⟨mid, rfl⟩ : ∃ front, mid = front ++ [')'] :=
      exists_eq_append_of_suffix (hs ▸ hlater.suffix)
    rw [hr] at hnext
    exact .bar ((readNext_steady _).replace hnext htail) (ih rfl hs)
  | @group r inner s mid after flags name names hnext hnames hinner hafter hlater ihinner ih =>
    obtain ⟨after, rfl⟩ : ∃ front, after = front ++ [')'] :=
      exists_eq_append_of_suffix (hs ▸ hlater.suffix)
    have hclosed : inner.rest = (')' :: after) ++ [')'] := hafter
    obtain ⟨mid, rfl⟩ : ∃ front, mid = front ++ [')'] :=
      exists_eq_append_of_suffix (hclosed ▸ hinner.suffix)
    rw [hr] at hnext
    exact .group ((readNext_steady _).replace hnext htail) hnames (ihinner rfl hclosed) rfl
      (ih rfl hs)
  | @piece r s mid flags piece parts hnext hparts hlater ih =>
    obtain ⟨mid, rfl⟩ : ∃ front, mid = front ++ [')'] :=
      exists_eq_append_of_suffix (hs ▸ hlater.suffix)
    rw [hr] at hnext
    exact .piece ((readNext_steady _).replace hnext htail) hparts (ih rfl hs)

/-- Reading ends in one state only. -/
theorem unique {t : Reader} (h : Reads r s) (h' : Reads r t) : s = t :=
  Except.ok.inj ((h.readAlternatives (Nat.lt_succ_self _)).symm.trans
    (h'.readAlternatives (Nat.lt_succ_self _)))

end Reads

/-- A name that is new among names is new among fewer. -/
theorem addName_of_subset {names fewer added : List (List Char)} {name : Option (List Char)}
    (h : addName names name = .ok added) (hfewer : fewer ⊆ names) :
    ∃ added' ⊆ added, addName fewer name = .ok added' := by
  cases name with
  | none =>
    cases h
    exact ⟨fewer, hfewer, rfl⟩
  | some name =>
    simp only [addName] at h ⊢
    split at h
    next => cases h
    next hnew =>
      cases h
      have hnew' : ¬ fewer.contains name = true := fun hmem =>
        hnew (List.contains_iff_mem.mpr (hfewer (List.contains_iff_mem.mp hmem)))
      exact ⟨name :: fewer, List.cons_subset_cons _ hfewer, if_neg hnew'⟩

/-- A piece goes behind parts whatever stands before them. -/
theorem Piece.addTo_append {piece : Piece} {parts parts' : List Part} (base : List Part)
    (h : piece.addTo parts = .ok parts') : piece.addTo (parts ++ base) = .ok (parts' ++ base) := by
  cases piece with
  | part p =>
    cases h
    rfl
  | repetition bounds =>
    cases parts with
    | nil => cases h
    | cons p parts =>
      simp only [List.cons_append, Piece.addTo] at h ⊢
      split at h
      next hrepeatable =>
        cases h
        exact if_pos hrepeatable
      next => cases h

namespace Reads

variable {r s : Reader}

/-- What is read where names are taken is read where fewer are. -/
theorem of_subset {fewer : List (List Char)} (h : Reads r s) (hfewer : fewer ⊆ r.names) :
    ∃ names ⊆ s.names, Reads { r with names := fewer } { s with names } := by
  induction h generalizing fewer with
  | stop hnext => exact ⟨fewer, hfewer, .stop hnext⟩
  | bar hnext _ ih =>
    obtain ⟨names, hnames, hlater⟩ := ih hfewer
    exact ⟨names, hnames, .bar hnext hlater⟩
  | group hnext hadd _ hafter _ ihinner ih =>
    obtain ⟨added, hadded, hadd'⟩ := addName_of_subset hadd hfewer
    obtain ⟨between, hbetween, hinner⟩ := ihinner hadded
    obtain ⟨names, hnames, hlater⟩ := ih hbetween
    exact ⟨names, hnames, .group hnext hadd' hinner hafter hlater⟩
  | piece hnext hparts _ ih =>
    obtain ⟨names, hnames, hlater⟩ := ih hfewer
    exact ⟨names, hnames, .piece hnext hparts hlater⟩

/-- What stands before the parts read so far, and before their alternative, goes unread:
other parts become a part of the same alternative, and other alternatives stay in front. -/
theorem behind (h : Reads r s) :
    ∃ more first, s.done = more ++ first :: r.done ∧ ∀ base done,
      Reads { r with parts := r.parts ++ base, done }
        { s with done := more ++ (first ++ base) :: done } := by
  induction h with
  | stop hnext => exact ⟨[], _, rfl, fun base done => .stop hnext⟩
  | bar hnext _ ih =>
    obtain ⟨more, first, hdone, hlater⟩ := ih
    refine ⟨more ++ [first], _, by simpa using hdone, fun base done => .bar hnext ?_⟩
    simpa using hlater [] _
  | group hnext hadd hinner hafter _ _ ih =>
    obtain ⟨more, first, hdone, hlater⟩ := ih
    exact ⟨more, first, hdone, fun base done =>
      .group hnext hadd hinner hafter (hlater base done)⟩
  | piece hnext hparts _ ih =>
    obtain ⟨more, first, hdone, hlater⟩ := ih
    exact ⟨more, first, hdone, fun base done =>
      .piece hnext (Piece.addTo_append base hparts) (hlater base done)⟩

end Reads

/-- What a text writes is decided by the state in which its reading ends. -/
theorem alternatives?_of_reads {written : String} {s : Reader}
    (h : Reads (.begin written.toList {} []) s) :
    alternatives? written = if s.rest = [] then .ok s.done else .error .unopenedGroup := by
  have hread : readAlternatives (written.toList.length + 1) (.begin written.toList {} []) = .ok s :=
    h.readAlternatives (Nat.lt_succ_self _)
  simp only [alternatives?, hread, List.isEmpty_iff]

/-- A text that can be read has an end of its reading. -/
theorem exists_reads (written : String)
    (h : ∀ fault, alternatives? written ≠ .error (.unreadable fault)) :
    ∃ s, Reads (.begin written.toList {} []) s := by
  cases hread : readAlternatives (written.toList.length + 1) (.begin written.toList {} []) with
  | error fault => exact absurd (by simp only [alternatives?, hread]) (h fault)
  | ok s => exact ⟨s, reads_of_readAlternatives hread⟩

/-- A text writes alternatives exactly when its reading ends with it. -/
theorem alternatives?_eq_ok {written : String} {alternatives : List (List Part)} :
    alternatives? written = .ok alternatives ↔
      ∃ s, Reads (.begin written.toList {} []) s ∧ s.rest = [] ∧ s.done = alternatives := by
  constructor
  · intro h
    obtain ⟨s, hs⟩ := exists_reads written fun fault => by simp [h]
    rw [alternatives?_of_reads hs] at h
    split at h
    next hrest => exact ⟨s, hs, hrest, Except.ok.inj h⟩
    next => cases h
  · rintro ⟨s, hs, hrest, rfl⟩
    rw [alternatives?_of_reads hs, if_pos hrest]

/-- A text closes a group that it does not open exactly when its reading stops before its
end. -/
theorem alternatives?_eq_unopened {written : String} :
    alternatives? written = .error .unopenedGroup ↔
      ∃ s, Reads (.begin written.toList {} []) s ∧ s.rest ≠ [] := by
  constructor
  · intro h
    obtain ⟨s, hs⟩ := exists_reads written fun fault => by simp [h]
    rw [alternatives?_of_reads hs] at h
    split at h
    next => cases h
    next hrest => exact ⟨s, hs, hrest⟩
  · rintro ⟨s, hs, hrest⟩
    rw [alternatives?_of_reads hs, if_neg hrest]

/-- A part is compiled exactly when it keeps to the limits. -/
theorem Part.compile?_eq_ok {part : Part} {p : Pattern} :
    part.compile? = .ok p ↔ (part.depth ≤ maxDepth ∧ part.pattern.size ≤ maxSize) ∧
      part.pattern = p := by
  unfold Part.compile?
  split
  next h => simp [Nat.not_le.mpr h]
  next hdepth =>
    split
    next h => simp [Nat.not_le.mpr h]
    next hsize => simp [Nat.not_lt.mp hdepth, Nat.not_lt.mp hsize]

/-- A text writes a pattern exactly when its alternatives keep to the limits. -/
theorem compile?_eq_ok {written : String} {p : Pattern} :
    compile? written = .ok p ↔ ∃ alternatives, alternatives? written = .ok alternatives ∧
      (Part.ofAlternatives alternatives).compile? = .ok p :=
  bind_eq_ok

/-- A pattern is refused for a group that is not opened exactly when its alternatives are. -/
theorem compile?_eq_unopened {written : String} :
    compile? written = .error .unopenedGroup ↔
      alternatives? written = .error .unopenedGroup := by
  refine ⟨fun h => ?_, fun h => bind_eq_error.mpr (.inl h)⟩
  rcases bind_eq_error.mp h with h | ⟨alternatives, -, h⟩
  · exact h
  · unfold Part.compile? at h
    split at h
    · cases h
    · split at h <;> cases h

end CloudEmulator.Pattern
