import CloudEmulator.Proofs.Pattern.Meaning

/-!
# What a match depends on

A match depends on the characters up to its end and on the one behind it. So a match that
ends early is one in every text that begins alike. A pattern that avoids some marks does not
match them, and does not tell them from the end of a text: what follows the first of them
makes no difference to it.
-/

namespace CloudEmulator.Pattern

/-- The class has none of the marks. -/
def CharClass.avoids (marks : List Char) (cls : CharClass) : Bool :=
  marks.all fun c => !cls.contains c

/-- The check does not tell the marks from each other, nor from the end of the text. -/
def Check.avoids (marks : List Char) : Check → Bool
  | textStart | lineStart | wordStartHalf _ => true
  | lineStartReturn => marks.all (· != '\n')
  | textEnd | lineEnd | lineEndReturn => false
  | boundary word | notBoundary word | wordStart word | wordEnd word | wordEndHalf word =>
    word.avoids marks

/-- The pattern matches none of the marks, and tells them from nothing. -/
def avoids (marks : List Char) : Pattern → Bool
  | empty => true
  | one cls => cls.avoids marks
  | check c => c.avoids marks
  | append p q | choice p q => p.avoids marks && q.avoids marks
  | repeated p _ _ => p.avoids marks

/-- A match of the pattern begins with a check of the start of the text. -/
def isAnchored : Pattern → Bool
  | check .textStart => true
  | append p _ => p.isAnchored
  | choice p q => p.isAnchored && q.isAnchored
  | repeated p low _ => low != 0 && p.isAnchored
  | _ => false

/-- Before a position the texts are the same. There each of them ends, or has a mark. -/
structure PartAt (marks : List Char) (n : Nat) (text other : Array Char) : Prop where
  same : ∀ k < n, text[k]? = other[k]?
  marked : ∀ c, text[n]? = some c → c ∈ marks
  markedOther : ∀ c, other[n]? = some c → c ∈ marks

section Chains

variable {step step' : Nat → Nat → Prop} {i j n : Nat}

/-- A chain of steps is one of other steps, if each step is one of them. -/
theorem Chain.imp (hstep : ∀ a b, step a b → step' a b) (h : Chain step n i j) :
    Chain step' n i j := by
  induction n generalizing i with
  | zero => exact h
  | succ n ih =>
    obtain ⟨mid, hfirst, hlater⟩ := h
    exact ⟨mid, hstep i mid hfirst, ih hlater⟩

/-- Where steps never go back, none of a chain goes beyond its end. -/
theorem Chain.bounded (hforward : ∀ a b, step a b → a ≤ b) (h : Chain step n i j) :
    Chain (fun a b => step a b ∧ b ≤ j) n i j := by
  induction n generalizing i with
  | zero => exact h
  | succ n ih =>
    obtain ⟨mid, hfirst, hlater⟩ := h
    have hmid : mid ≤ j := hlater.related hforward Nat.le_refl fun _ _ _ => Nat.le_trans
    exact ⟨mid, ⟨hfirst, hmid⟩, ih hlater⟩

/-- Steps that do not leave a range make a chain that does not leave it. -/
theorem Chain.within {bound : Nat}
    (hstep : ∀ a b, a ≤ bound → step a b → b ≤ bound ∧ step' a b)
    (hi : i ≤ bound) (h : Chain step n i j) : j ≤ bound ∧ Chain step' n i j := by
  induction n generalizing i with
  | zero =>
    obtain rfl : i = j := h
    exact ⟨hi, rfl⟩
  | succ n ih =>
    obtain ⟨mid, hfirst, hlater⟩ := h
    obtain ⟨hmid, hfirst'⟩ := hstep i mid hi hfirst
    obtain ⟨hend, hlater'⟩ := ih hmid hlater
    exact ⟨hend, mid, hfirst', hlater'⟩

end Chains

section Locality

variable {text other : Array Char} {marks : List Char} {n i j : Nat} {p : Pattern}

/-- Parting goes both ways. -/
theorem PartAt.symm (h : PartAt marks n text other) : PartAt marks n other text :=
  ⟨fun k hk => (h.same k hk).symm, h.markedOther, h.marked⟩

/-- Up to the position where texts part, the character before is the same. -/
theorem around_fst_eq (hsame : ∀ k < n, text[k]? = other[k]?) (hi : i ≤ n) :
    (around text i).1 = (around other i).1 := by
  unfold around
  by_cases hzero : i = 0
  · rw [if_pos hzero, if_pos hzero]
  · rw [if_neg hzero, if_neg hzero, hsame (i - 1) (by omega)]

/-- Before that position, both neighbours are the same. -/
theorem around_eq (hsame : ∀ k < n, text[k]? = other[k]?) (hi : i < n) :
    around text i = around other i :=
  Prod.ext (around_fst_eq hsame (Nat.le_of_lt hi)) (hsame i hi)

/-- **What a match depends on.** A match is one in every text that is the same up to its end
and the character behind it. -/
theorem spans_of_same (hsame : ∀ k < n, text[k]? = other[k]?) (h : Spans text p i j)
    (hj : j < n) : Spans other p i j := by
  induction p generalizing i j with
  | empty => exact h
  | one cls =>
    obtain ⟨⟨c, hc, hcontains⟩, rfl⟩ := h
    rw [hsame i (by omega)] at hc
    exact ⟨⟨c, hc, hcontains⟩, rfl⟩
  | check c =>
    obtain ⟨hholds, rfl⟩ := h
    rw [around_eq hsame hj] at hholds
    exact ⟨hholds, rfl⟩
  | append p q ihp ihq =>
    obtain ⟨mid, hp, hq⟩ := h
    have hmid := le_of_spans hq
    exact ⟨mid, ihp hp (by omega), ihq hq hj⟩
  | choice p q ihp ihq =>
    rcases h with h | h
    · exact .inl (ihp h hj)
    · exact .inr (ihq h hj)
  | repeated p low more ih =>
    obtain ⟨count, hlow, hmore, hchain⟩ := h
    refine ⟨count, hlow, hmore, ?_⟩
    apply (hchain.bounded fun _ _ => le_of_spans).imp
    rintro a b ⟨hstep, hb⟩
    exact ih hstep (by omega)

/-- Where texts part, a class that avoids the marks has no character. -/
theorem any_contains_eq_false {cls : CharClass} (havoids : cls.avoids marks = true)
    (hmarked : ∀ c, text[n]? = some c → c ∈ marks) : text[n]?.any cls.contains = false := by
  cases hc : text[n]? with
  | none => rfl
  | some c =>
    have hnot := List.all_eq_true.mp havoids c (hmarked c hc)
    simpa using hnot

/-- A check that avoids the marks holds in both texts, as long as they do not part. -/
theorem Check.holds_eq {c : Check} (hpart : PartAt marks n text other)
    (havoids : c.avoids marks = true) (hi : i ≤ n) :
    c.holds (around text i) = c.holds (around other i) := by
  rcases Nat.lt_or_eq_of_le hi with hlt | rfl
  · rw [around_eq hpart.same hlt]
  · have hbefore := around_fst_eq hpart.same hi
    have hafter {word : CharClass} (hword : word.avoids marks = true) :
        (around text i).2.any word.contains = (around other i).2.any word.contains := by
      have htext := any_contains_eq_false hword hpart.marked
      have hother := any_contains_eq_false hword hpart.markedOther
      exact htext.trans hother.symm
    cases c with
    | textStart => simp only [holds, hbefore]
    | lineStart => simp only [holds, hbefore]
    | wordStartHalf word => simp only [holds, hbefore]
    | lineStartReturn =>
      have hline {t : Array Char} (hmarked : ∀ c, t[i]? = some c → c ∈ marks) :
          ((around t i).2 != some '\n') = true := by
        rw [bne_iff_ne]
        intro hnewline
        have hnot := List.all_eq_true.mp havoids '\n' (hmarked '\n' hnewline)
        simp at hnot
      simp only [holds, hbefore, hline hpart.marked, hline hpart.markedOther]
    | textEnd => cases havoids
    | lineEnd => cases havoids
    | lineEndReturn => cases havoids
    | boundary word => simp only [holds, hbefore, hafter havoids]
    | notBoundary word => simp only [holds, hbefore, hafter havoids]
    | wordStart word => simp only [holds, hbefore, hafter havoids]
    | wordEnd word => simp only [holds, hbefore, hafter havoids]
    | wordEndHalf word => simp only [holds, hafter havoids]

/-- **Marks that are avoided hide the rest.** A match of a pattern that avoids the marks ends
where the texts part, at the latest, and so is one in both. -/
theorem spans_of_avoids (hpart : PartAt marks n text other) (havoids : p.avoids marks = true)
    (h : Spans text p i j) (hi : i ≤ n) : j ≤ n ∧ Spans other p i j := by
  -- That a match ends where the texts part is carried along, since what comes behind it in a
  -- sequence starts there.
  induction p generalizing i j with
  | empty =>
    obtain rfl : i = j := h
    exact ⟨hi, rfl⟩
  | one cls =>
    obtain ⟨⟨c, hc, hcontains⟩, rfl⟩ := h
    have hlt : i < n := by
      rcases Nat.lt_or_eq_of_le hi with hlt | rfl
      · exact hlt
      · have hnot := any_contains_eq_false havoids hpart.marked
        rw [hc, Option.any_some, hcontains] at hnot
        cases hnot
    rw [hpart.same i hlt] at hc
    exact ⟨hlt, ⟨c, hc, hcontains⟩, rfl⟩
  | check c =>
    obtain ⟨hholds, rfl⟩ := h
    rw [Check.holds_eq hpart havoids hi] at hholds
    exact ⟨hi, hholds, rfl⟩
  | append p q ihp ihq =>
    obtain ⟨hp, hq⟩ := Bool.and_eq_true_iff.mp havoids
    obtain ⟨mid, hfirst, hsecond⟩ := h
    obtain ⟨hmid, hfirst'⟩ := ihp hp hfirst hi
    obtain ⟨hend, hsecond'⟩ := ihq hq hsecond hmid
    exact ⟨hend, mid, hfirst', hsecond'⟩
  | choice p q ihp ihq =>
    obtain ⟨hp, hq⟩ := Bool.and_eq_true_iff.mp havoids
    rcases h with h | h
    · obtain ⟨hend, h'⟩ := ihp hp h hi
      exact ⟨hend, .inl h'⟩
    · obtain ⟨hend, h'⟩ := ihq hq h hi
      exact ⟨hend, .inr h'⟩
  | repeated p low more ih =>
    obtain ⟨count, hlow, hmore, hchain⟩ := h
    obtain ⟨hend, hchain'⟩ := hchain.within (fun _ _ ha hstep => ih havoids hstep ha) hi
    exact ⟨hend, count, hlow, hmore, hchain'⟩

/-- A match of an anchored pattern starts with the text. -/
theorem eq_zero_of_isAnchored (hanchored : p.isAnchored = true) (hi : i ≤ text.size)
    (h : Spans text p i j) : i = 0 := by
  induction p generalizing i j with
  | empty => cases hanchored
  | one cls => cases hanchored
  | check c =>
    cases c with
    | textStart => exact (textStart_holds_iff hi).mp h.1
    | _ => cases hanchored
  | append p q ihp _ =>
    obtain ⟨mid, hp, -⟩ := h
    exact ihp hanchored hi hp
  | choice p q ihp ihq =>
    obtain ⟨hp, hq⟩ := Bool.and_eq_true_iff.mp hanchored
    rcases h with h | h
    · exact ihp hp hi h
    · exact ihq hq hi h
  | repeated p low more ih =>
    obtain ⟨hlow, hp⟩ := Bool.and_eq_true_iff.mp hanchored
    obtain ⟨count, hcount, -, hchain⟩ := h
    rcases count with _ | count
    · have hzero : low = 0 := Nat.le_zero.mp hcount
      simp [hzero] at hlow
    · obtain ⟨mid, hfirst, -⟩ := hchain
      exact ih hp hi hfirst

/-- An anchored pattern matches exactly where it matches from the first character on. -/
theorem matchesIn_iff_of_isAnchored {text : String} (hanchored : p.isAnchored = true) :
    p.matchesIn text = true ↔ ∃ j, Spans text.toList.toArray p 0 j := by
  rw [matchesIn_iff]
  constructor
  · rintro ⟨i, hi, j, h⟩
    obtain rfl := eq_zero_of_isAnchored hanchored hi h
    exact ⟨j, h⟩
  · rintro ⟨j, h⟩
    exact ⟨0, Nat.zero_le _, j, h⟩

end Locality

end CloudEmulator.Pattern
