import CloudEmulator.Pattern.Reader
import Mathlib.Data.List.Basic

/-!
# What patterns match

Matching computes sets of positions. Every position it gives is reached by the meaning of
the pattern, and it gives every one: repeated steps that stay where they are can be left
out, so as many steps as the text has characters reach all that any number does.
-/

namespace CloudEmulator.Pattern

section Chains

variable {step : Nat → Nat → Prop} {i j k n m : Nat}

/-- One chain after the other is a chain. -/
theorem Chain.append (h : Chain step n i j) (h' : Chain step m j k) :
    Chain step (n + m) i k := by
  induction n generalizing i with
  | zero =>
    obtain rfl : i = j := h
    rwa [Nat.zero_add]
  | succ n ih =>
    obtain ⟨mid, hfirst, hlater⟩ := h
    rw [Nat.succ_add]
    exact ⟨mid, hfirst, ih hlater⟩

/-- A chain of enough steps passes a position after any number of them. -/
theorem Chain.split (h : Chain step (n + m) i k) : ∃ j, Chain step n i j ∧ Chain step m j k := by
  induction n generalizing i with
  | zero =>
    rw [Nat.zero_add] at h
    exact ⟨i, rfl, h⟩
  | succ n ih =>
    rw [Nat.succ_add] at h
    obtain ⟨mid, hfirst, hlater⟩ := h
    obtain ⟨j, hbefore, hafter⟩ := ih hlater
    exact ⟨j, ⟨mid, hfirst, hbefore⟩, hafter⟩

/-- A transitive relation between the ends of every step is one between the ends of a
chain. -/
theorem Chain.related {related : Nat → Nat → Prop} (hstep : ∀ i j, step i j → related i j)
    (hrefl : ∀ i, related i i) (htrans : ∀ i j k, related i j → related j k → related i k)
    (h : Chain step n i j) : related i j := by
  induction n generalizing i with
  | zero =>
    obtain rfl : i = j := h
    exact hrefl i
  | succ n ih =>
    obtain ⟨mid, hfirst, hlater⟩ := h
    exact htrans i mid j (hstep _ _ hfirst) (ih hlater)

/-- Where steps never go back, those that stay in place can be left out. -/
theorem Chain.shorten (hstep : ∀ i j, step i j → i ≤ j) (h : Chain step n i j) :
    ∃ m ≤ j - i, Chain step m i j := by
  induction n generalizing i with
  | zero => exact ⟨0, Nat.zero_le _, h⟩
  | succ n ih =>
    obtain ⟨mid, hfirst, hlater⟩ := h
    obtain ⟨m, hm, hshort⟩ := ih hlater
    have hmid : mid ≤ j := hlater.related hstep Nat.le_refl fun _ _ _ => Nat.le_trans
    rcases Nat.eq_or_lt_of_le (hstep _ _ hfirst) with rfl | hforward
    · exact ⟨m, hm, hshort⟩
    · exact ⟨m + 1, by omega, mid, hfirst, hshort⟩

end Chains

section Positions

variable {move : List Nat → List Nat} {step : Nat → Nat → Prop} {j n : Nat}

/-- A position put before or among what another list makes of a list. -/
theorem mem_mergeBefore {x : Nat} {later : List Nat → List Nat} {xs : List Nat}
    (hlater : ∀ ys, j ∈ later ys ↔ j ∈ xs ∨ j ∈ ys) (ys : List Nat) :
    j ∈ mergeBefore x later ys ↔ j ∈ x :: xs ∨ j ∈ ys := by
  induction ys with
  | nil => simp [mergeBefore, hlater]
  | cons y ys ih =>
    unfold mergeBefore
    split
    next => simp [hlater, or_assoc]
    next =>
      split
      next =>
        rw [List.mem_cons, ih, List.mem_cons, List.mem_cons]
        tauto
      next =>
        obtain rfl : x = y := by omega
        rw [List.mem_cons, hlater, List.mem_cons, List.mem_cons]
        tauto

/-- The union of two lists of positions has the positions of both. -/
theorem mem_mergePositions {xs ys : List Nat} : j ∈ mergePositions xs ys ↔ j ∈ xs ∨ j ∈ ys := by
  induction xs generalizing ys with
  | nil => simp [mergePositions]
  | cons x xs ih => exact mem_mergeBefore (fun _ => ih) ys

/-- So many moves reach what chains of so many steps reach. -/
theorem mem_advance_iff (hmove : ∀ xs j, j ∈ move xs ↔ ∃ i ∈ xs, step i j) {xs : List Nat} :
    j ∈ advance move n xs ↔ ∃ i ∈ xs, Chain step n i j := by
  induction n generalizing xs with
  | zero => simp [advance, Chain]
  | succ n ih =>
    cases xs with
    | nil => simp [advance]
    | cons x xs =>
      simp only [advance, List.isEmpty_cons, Bool.false_eq_true, if_false, ih, hmove, Chain]
      constructor
      · rintro ⟨mid, ⟨i, hi, hfirst⟩, hlater⟩
        exact ⟨i, hi, mid, hfirst, hlater⟩
      · rintro ⟨i, hi, mid, hfirst, hlater⟩
        exact ⟨mid, ⟨i, hi, hfirst⟩, hlater⟩

/-- Saturation reaches what chains of at most so many steps reach, if it has gone on from
all positions but the fresh ones. -/
theorem mem_saturate_iff (hmove : ∀ xs j, j ∈ move xs ↔ ∃ i ∈ xs, step i j)
    {reached fresh : List Nat} (hfresh : fresh ⊆ reached)
    (hgone : ∀ i ∈ reached, i ∉ fresh → ∀ j, step i j → j ∈ reached) :
    j ∈ saturate move n reached fresh ↔ ∃ i ∈ reached, ∃ m ≤ n, Chain step m i j := by
  induction n generalizing reached fresh with
  | zero => simp [saturate, Chain]
  | succ n ih =>
    let new := (move fresh).filter fun j => !reached.contains j
    have hnew (j : Nat) : j ∈ new ↔ (∃ i ∈ fresh, step i j) ∧ j ∉ reached := by
      simp [new, hmove]
    have honward (i : Nat) (hi : i ∈ reached) (j : Nat) (hij : step i j) :
        j ∈ reached ∨ j ∈ new := by
      by_cases hj : j ∈ reached
      · exact .inl hj
      · by_cases hifresh : i ∈ fresh
        · exact .inr ((hnew j).mpr ⟨⟨i, hifresh, hij⟩, hj⟩)
        · exact absurd (hgone i hi hifresh j hij) hj
    rw [show saturate move (n + 1) reached fresh =
      if new.isEmpty then reached else saturate move n (mergePositions reached new) new from rfl]
    split
    next hempty =>
      have hnone : new = [] := List.isEmpty_iff.mp hempty
      refine ⟨fun hj => ⟨j, hj, 0, Nat.zero_le _, rfl⟩, ?_⟩
      rintro ⟨i, hi, m, -, hchain⟩
      -- Nothing new is reached from what is reached, by one step or by many.
      have hkept (i j : Nat) (hij : step i j) : i ∈ reached → j ∈ reached := fun hi => by
        simpa [hnone] using honward i hi j hij
      exact hchain.related hkept (fun _ => id) (fun _ _ _ h h' => h' ∘ h) hi
    next =>
      have hgone' (i : Nat) (hi : i ∈ mergePositions reached new) (hold : i ∉ new) (j : Nat)
          (hij : step i j) : j ∈ mergePositions reached new :=
        mem_mergePositions.mpr (honward i ((mem_mergePositions.mp hi).resolve_right hold) j hij)
      rw [ih (fun j hj => mem_mergePositions.mpr (.inr hj)) hgone']
      constructor
      · rintro ⟨i, hi, m, hm, hchain⟩
        rcases mem_mergePositions.mp hi with hi | hi
        · exact ⟨i, hi, m, by omega, hchain⟩
        · obtain ⟨⟨i', hi', hfirst⟩, -⟩ := (hnew i).mp hi
          exact ⟨i', hfresh hi', m + 1, by omega, i, hfirst, hchain⟩
      · rintro ⟨i, hi, m, hm, hchain⟩
        cases m with
        | zero => exact ⟨i, mem_mergePositions.mpr (.inl hi), 0, Nat.zero_le _, hchain⟩
        | succ m =>
          obtain ⟨mid, hfirst, hlater⟩ := hchain
          exact ⟨mid, mem_mergePositions.mpr (honward i hi mid hfirst), m, by omega, hlater⟩

end Positions

section Meaning

variable {text : Array Char}

/-- A position is another, or stands behind it in a text of so many characters. -/
def Forward (size i j : Nat) : Prop :=
  i = j ∨ (i < j ∧ j ≤ size)

/-- Going forward twice is going forward. -/
theorem Forward.trans {size i j k : Nat} (h : Forward size i j) (h' : Forward size j k) :
    Forward size i k := by
  unfold Forward at *
  omega

/-- Steps forward are together a way forward. -/
theorem Chain.forward {step : Nat → Nat → Prop} {size n i j : Nat}
    (hstep : ∀ i j, step i j → Forward size i j) (h : Chain step n i j) : Forward size i j :=
  h.related hstep (fun _ => .inl rfl) fun _ _ _ => Forward.trans

/-- A match ends where it starts, or further on in the text. -/
theorem forward_of_spans {p : Pattern} {i j : Nat} (h : Spans text p i j) :
    Forward text.size i j := by
  induction p generalizing i j with
  | empty => exact .inl h
  | one cls =>
    obtain ⟨⟨c, hc, -⟩, rfl⟩ := h
    obtain ⟨hi, -⟩ := Array.getElem?_eq_some_iff.mp hc
    exact .inr ⟨Nat.lt_succ_self i, hi⟩
  | check c => exact .inl h.2.symm
  | append p q ihp ihq =>
    obtain ⟨mid, hp, hq⟩ := h
    exact (ihp hp).trans (ihq hq)
  | choice p q ihp ihq =>
    rcases h with h | h
    · exact ihp h
    · exact ihq h
  | repeated p low more ih =>
    obtain ⟨count, -, -, hchain⟩ := h
    exact hchain.forward fun _ _ => ih

/-- A match does not end before it starts. -/
theorem le_of_spans {p : Pattern} {i j : Nat} (h : Spans text p i j) : i ≤ j := by
  rcases forward_of_spans h with rfl | ⟨hlt, -⟩
  · exact Nat.le_refl i
  · exact Nat.le_of_lt hlt

/-- Repeated copies are the required ones, and further ones in no greater number than the
text has characters. -/
theorem spans_repeated_iff {p : Pattern} {low : Nat} {more : Option Nat} {i j : Nat} :
    Spans text (.repeated p low more) i j ↔
      ∃ mid, Chain (Spans text p) low i mid ∧
        ∃ count ≤ more.getD (text.size + 1), Chain (Spans text p) count mid j := by
  constructor
  · rintro ⟨count, hlow, hmore, hchain⟩
    obtain ⟨further, rfl⟩ := Nat.exists_eq_add_of_le hlow
    obtain ⟨mid, hrequired, hfurther⟩ := hchain.split
    refine ⟨mid, hrequired, ?_⟩
    cases more with
    | some m => exact ⟨further, Nat.le_of_add_le_add_left (hmore m rfl), hfurther⟩
    | none =>
      obtain ⟨few, hfew, hshort⟩ := hfurther.shorten fun _ _ => le_of_spans
      have hend := hfurther.forward fun _ _ => forward_of_spans
      unfold Forward at hend
      exact ⟨few, by simp only [Option.getD_none]; omega, hshort⟩
  · rintro ⟨mid, hrequired, count, hcount, hfurther⟩
    refine ⟨low + count, Nat.le_add_right .., ?_, hrequired.append hfurther⟩
    rintro m rfl
    exact Nat.add_le_add_left hcount low

/-- **Matching is sound and complete.** The computed ends are those of the matches that
begin at one of the starts. -/
theorem mem_ends_iff {p : Pattern} {starts : List Nat} {j : Nat} :
    j ∈ ends text p starts ↔ ∃ i ∈ starts, Spans text p i j := by
  induction p generalizing starts j with
  | empty => simp [ends, Spans]
  | one cls =>
    simp only [ends, Spans, List.mem_filterMap, Option.any_eq_true]
    constructor
    · rintro ⟨i, hi, h⟩
      split at h
      next hc => exact ⟨i, hi, hc, (Option.some.inj h).symm⟩
      next => cases h
    · rintro ⟨i, hi, hc, rfl⟩
      exact ⟨i, hi, if_pos hc⟩
  | check c =>
    simp only [ends, Spans, List.mem_filter]
    constructor
    · rintro ⟨hj, hc⟩
      exact ⟨j, hj, hc, rfl⟩
    · rintro ⟨i, hi, hc, rfl⟩
      exact ⟨hi, hc⟩
  | append p q ihp ihq =>
    simp only [ends, Spans, ihp, ihq]
    constructor
    · rintro ⟨mid, ⟨i, hi, hp⟩, hq⟩
      exact ⟨i, hi, mid, hp, hq⟩
    · rintro ⟨i, hi, mid, hp, hq⟩
      exact ⟨mid, ⟨i, hi, hp⟩, hq⟩
  | choice p q ihp ihq =>
    simp only [ends, Spans, mem_mergePositions, ihp, ihq]
    constructor
    · rintro (⟨i, hi, h⟩ | ⟨i, hi, h⟩)
      · exact ⟨i, hi, .inl h⟩
      · exact ⟨i, hi, .inr h⟩
    · rintro ⟨i, hi, h | h⟩
      · exact .inl ⟨i, hi, h⟩
      · exact .inr ⟨i, hi, h⟩
  | repeated p low more ih =>
    have hgone (first : List Nat) :
        ∀ i ∈ first, i ∉ first → ∀ j, Spans text p i j → j ∈ first := fun i hi hnot =>
      absurd hi hnot
    simp only [ends, mem_saturate_iff (fun _ _ => ih) (List.Subset.refl _) (hgone _),
      mem_advance_iff (fun _ _ => ih), spans_repeated_iff]
    constructor
    · rintro ⟨mid, ⟨i, hi, hrequired⟩, hfurther⟩
      exact ⟨i, hi, mid, hrequired, hfurther⟩
    · rintro ⟨i, hi, mid, hrequired, hfurther⟩
      exact ⟨mid, ⟨i, hi, hrequired⟩, hfurther⟩

/-- In a text, only its first position stands at the start. -/
theorem textStart_holds_iff {i : Nat} (hi : i ≤ text.size) :
    Check.textStart.holds (around text i) = true ↔ i = 0 := by
  rcases i with _ | i
  · simp [Check.holds, around]
  · have hbefore : text[i]? = some text[i] := Array.getElem?_eq_getElem hi
    simp [Check.holds, around, hbefore]

/-- A pattern matches in a text exactly when it has a match that starts anywhere in it. -/
theorem matchesIn_iff {p : Pattern} {text : String} :
    p.matchesIn text = true ↔
      ∃ i ≤ text.toList.length, ∃ j, Spans text.toList.toArray p i j := by
  simp only [matchesIn, Bool.not_eq_true', List.isEmpty_eq_false_iff_exists_mem, mem_ends_iff,
    List.mem_range, List.size_toArray, Nat.lt_succ_iff]
  constructor
  · rintro ⟨j, i, hi, h⟩
    exact ⟨i, hi, j, h⟩
  · rintro ⟨i, hi, j, h⟩
    exact ⟨j, i, hi, h⟩

end Meaning

section Parts

variable {text : Array Char} {i j : Nat}

/-- Parts match one after the other; the last of the list stands first in the text. -/
theorem spans_sequence_concat {parts : List Part} {part : Part} :
    Spans text (Part.sequence (parts ++ [part])).pattern i j ↔
      ∃ k, Spans text part.pattern i k ∧ Spans text (Part.sequence parts).pattern k j := by
  let inOrder (parts : List Part) : Pattern :=
    parts.foldl (fun later part => .append part.pattern later) .empty
  have hsequence (parts : List Part) (i : Nat) :
      Spans text (Part.sequence parts).pattern i j ↔ Spans text (inOrder parts) i j := by
    rcases parts with _ | ⟨part, _ | ⟨next, parts⟩⟩
    · exact Iff.rfl
    · simp [inOrder, Part.sequence, Spans]
    · exact Iff.rfl
  simp only [hsequence, inOrder, List.foldl_append, List.foldl_cons, List.foldl_nil, Spans]

/-- Alternatives match where one of them does. -/
theorem spans_ofAlternatives_iff {alternatives : List (List Part)} (hsome : alternatives ≠ []) :
    Spans text (Part.ofAlternatives alternatives).pattern i j ↔
      ∃ alternative ∈ alternatives, Spans text (Part.sequence alternative).pattern i j := by
  have hchoices (parts : List Part) (later : Pattern) :
      Spans text (parts.foldl (fun later part => .choice part.pattern later) later) i j ↔
        Spans text later i j ∨ ∃ part ∈ parts, Spans text part.pattern i j := by
    induction parts generalizing later with
    | nil => simp
    | cons part parts ih =>
      simp only [List.foldl_cons, ih, Spans, List.exists_mem_cons_iff]
      tauto
  rcases alternatives with _ | ⟨last, _ | ⟨next, alternatives⟩⟩
  · exact absurd rfl hsome
  · simp [Part.ofAlternatives, Part.alternatives]
  · simpa [Part.ofAlternatives, Part.alternatives] using
      hchoices ((next :: alternatives).map .sequence) (Part.sequence last).pattern

end Parts

end CloudEmulator.Pattern
