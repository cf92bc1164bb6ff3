import CloudEmulator.Proofs.Pattern.Grouping
import CloudEmulator.Proofs.Pattern.Meaning

/-!
# How alternatives begin

Of the parts that a text begins with, the reading of the rest can change only the last: a
repetition may stand behind it. All others stay the first parts of the first alternative.
What the part matches that was repeated is still what it matched alone, or nothing.
-/

namespace CloudEmulator.Pattern

/-- The part, with any repetitions one behind the other. -/
inductive Part.Repeats (part : Part) : Part → Prop where
  | once : Repeats part part
  | times {p : Part} (bounds : Bounds) : Repeats part p → Repeats part (p.times bounds)

/-- The part stands for one character alone. -/
def Part.isLetter (c : Char) (part : Part) : Bool :=
  match part.pattern with
  | .one (.range low high) => low == c && high == c
  | _ => false

/-- Every match of the pattern begins with the character. -/
def leads (c : Char) : Pattern → Bool
  | one (.range low high) => low == c && high == c
  | append p _ => p.leads c
  | choice p q => p.leads c && q.leads c
  | repeated p low _ => low != 0 && p.leads c
  | _ => false

/-- What is repeated and then repeated further is repeated. -/
theorem Part.Repeats.of_times {part p : Part} {bounds : Bounds}
    (h : (part.times bounds).Repeats p) : part.Repeats p := by
  induction h with
  | once => exact .times bounds .once
  | times later _ ih => exact .times later ih

/-- **What stays of the parts read so far.** The last of them may be repeated. With it, they
remain the first parts of their alternative, which comes first among those still read. -/
theorem Reads.begins {r s : Reader} {last : Part} {front : List Part} (h : Reads r s)
    (hparts : r.parts = last :: front) :
    ∃ later more last', last.Repeats last' ∧
      s.done = later ++ (more ++ last' :: front) :: r.done := by
  -- By induction on the reading, for all parts read so far: a group or another part becomes
  -- the last of them, and then only that one can be repeated.
  induction h generalizing last front with
  | stop hnext => exact ⟨[], [], last, .once, by rw [hparts]; rfl⟩
  | bar hnext hlater _ =>
    obtain ⟨more, first, hdone, -⟩ := hlater.behind
    refine ⟨more ++ [first], [], last, .once, ?_⟩
    rw [hdone, hparts, List.append_assoc]
    rfl
  | group hnext hadd hinner hafter hlater _ ih =>
    obtain ⟨later, more, group, -, hdone⟩ := ih (congrArg _ hparts)
    refine ⟨later, more ++ [group], last, .once, ?_⟩
    rw [hdone, List.append_assoc]
    rfl
  | @piece r s rest flags piece parts hnext hadd hlater ih =>
    rw [hparts] at hadd
    cases piece with
    | part p =>
      obtain rfl := Except.ok.inj hadd
      obtain ⟨later, more, part, -, hdone⟩ := ih rfl
      refine ⟨later, more ++ [part], last, .once, ?_⟩
      rw [hdone, List.append_assoc]
      rfl
    | repetition bounds =>
      simp only [Piece.addTo] at hadd
      split at hadd
      next =>
        obtain rfl := Except.ok.inj hadd
        obtain ⟨later, more, last', hrepeats, hdone⟩ := ih rfl
        exact ⟨later, more, last', hrepeats.of_times, hdone⟩
      next => cases hadd

section Spans

variable {text : Array Char} {c : Char} {i j k n : Nat}

/-- Steps that stay in place make a chain of any length. -/
theorem Chain.stay {step : Nat → Nat → Prop} (h : step i i) : Chain step n i i := by
  induction n with
  | zero => rfl
  | succ n ih => exact ⟨i, h, ih⟩

/-- A character is in the class of itself alone. -/
theorem contains_single_iff {d : Char} : (CharClass.single c).contains d = true ↔ d = c := by
  simp only [CharClass.single, CharClass.contains, Bool.and_eq_true, decide_eq_true_eq]
  constructor
  · rintro ⟨hlow, hhigh⟩
    exact Char.toNat_inj.mp (Nat.le_antisymm hhigh hlow)
  · rintro rfl
    exact ⟨Nat.le_refl _, Nat.le_refl _⟩

/-- One character of a text matches its own class. -/
theorem spans_single_iff :
    Spans text (.one (.single c)) i j ↔ text[i]? = some c ∧ j = i + 1 := by
  constructor
  · rintro ⟨⟨d, hd, hcontains⟩, hj⟩
    obtain rfl := contains_single_iff.mp hcontains
    exact ⟨hd, hj⟩
  · rintro ⟨hc, hj⟩
    exact ⟨⟨c, hc, contains_single_iff.mpr rfl⟩, hj⟩

/-- A part for one character matches that character. -/
theorem spans_of_isLetter {part : Part} (h : part.isLetter c = true) :
    Spans text part.pattern i j ↔ text[i]? = some c ∧ j = i + 1 := by
  unfold Part.isLetter at h
  split at h
  next low high hpattern =>
    obtain ⟨rfl, rfl⟩ : low = c ∧ high = c := by simpa using h
    rw [hpattern]
    exact spans_single_iff
  next => cases h

/-- A literal character is a part for it. -/
theorem isLetter_ofLiteral (c : Char) : (Part.ofLiteral {} c).isLetter c = true := by
  simp [Part.isLetter, Part.ofLiteral, Part.ofClass, foldedClass, CharClass.negateIf,
    CharClass.single]

/-- Where every match begins with a character, that one stands there. -/
theorem getElem?_of_leads {p : Pattern} (h : p.leads c = true) (hspans : Spans text p i j) :
    text[i]? = some c := by
  induction p generalizing i j with
  | empty => cases h
  | one cls =>
    cases cls with
    | range low high =>
      obtain ⟨rfl, rfl⟩ : low = c ∧ high = c := by simpa [leads] using h
      exact (spans_single_iff.mp hspans).1
    | _ => cases h
  | check _ => cases h
  | append p q ihp _ =>
    obtain ⟨mid, hp, -⟩ := hspans
    exact ihp h hp
  | choice p q ihp ihq =>
    obtain ⟨hp, hq⟩ := Bool.and_eq_true_iff.mp h
    rcases hspans with hspans | hspans
    · exact ihp hp hspans
    · exact ihq hq hspans
  | repeated p low more ih =>
    obtain ⟨hlow, hp⟩ := Bool.and_eq_true_iff.mp h
    obtain ⟨count, hcount, -, hchain⟩ := hspans
    rcases count with _ | count
    · have hzero : low = 0 := Nat.le_zero.mp hcount
      simp [hzero] at hlow
    · obtain ⟨mid, hfirst, -⟩ := hchain
      exact ih hp hfirst

/-- A match of a repeated character begins with the character, or is empty. The pattern may
be left out then. -/
theorem Part.Repeats.spans {letter part : Part} (h : letter.Repeats part)
    (hletter : letter.isLetter c = true) (hspans : Spans text part.pattern i j) :
    text[i]? = some c ∨ (part.pattern.isNullable = true ∧ j = i) := by
  induction h generalizing i j with
  | once => exact .inl ((spans_of_isLetter hletter).mp hspans).1
  | @times p bounds _ ih =>
    obtain ⟨count, hlow, -, hchain⟩ := hspans
    by_cases hplace : text[i]? = some c
    · left
      exact hplace
    · right
      -- No copy begins with the character, so the first stays in place, and so do all others.
      let stays (a b : Nat) : Prop := text[a]? = some c ∨ b = a
      have hstays : stays i j := by
        apply hchain.related
        · intro a b hstep
          exact (ih hstep).imp_right And.right
        · intro a
          exact .inr rfl
        · rintro a b d (hplace | rfl) hlater
          · exact .inl hplace
          · exact hlater
      refine ⟨?_, hstays.resolve_left hplace⟩
      cases count with
      | zero =>
        have hzero : bounds.low = 0 := Nat.le_zero.mp hlow
        simp [Part.times, isNullable, hzero]
      | succ count =>
        obtain ⟨mid, hfirst, -⟩ := hchain
        obtain ⟨hp, -⟩ := (ih hfirst).resolve_left hplace
        simp [Part.times, isNullable, hp]

/-- A repeated character that may be left out matches nothing anywhere. -/
theorem Part.Repeats.spans_self {letter part : Part} (h : letter.Repeats part)
    (hletter : letter.isLetter c = true) (hnullable : part.pattern.isNullable = true) :
    Spans text part.pattern i i := by
  induction h with
  | once =>
    unfold Part.isLetter at hletter
    split at hletter
    next low high hpattern =>
      rw [hpattern] at hnullable
      cases hnullable
    next => cases hletter
  | @times p bounds _ ih =>
    simp only [Part.times, isNullable, Bool.or_eq_true, beq_iff_eq] at hnullable
    rcases hnullable with hzero | hp
    · refine ⟨0, Nat.le_of_eq hzero, fun _ _ => Nat.zero_le _, rfl⟩
    · exact ⟨bounds.low, Nat.le_refl _, fun _ _ => Nat.le_add_right _ _, .stay (ih hp)⟩

end Spans

end CloudEmulator.Pattern
