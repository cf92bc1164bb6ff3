import CloudEmulator.Text.Ascii
import Mathlib.Data.List.TakeWhile

/-!
# Cut texts

What a cut before the first of some characters, or a split at the first separator, makes of
a text that is put together from parts.
-/

namespace CloudEmulator.Text

variable {p : Char → Bool} {sep : Char} {front back : List Char}

/-- Characters that stand before a cut stay before it. -/
theorem cutAt_append (hfront : ∀ c ∈ front, p c = false) (back : List Char) :
    cutAt p (front ++ back) = (front ++ (cutAt p back).1, (cutAt p back).2) := by
  have hinside : ∀ c ∈ front, (!p c) = true := fun c hc => by rw [hfront c hc]; rfl
  rw [cutAt, cutAt, List.takeWhile_append_of_pos hinside, List.dropWhile_append_of_pos hinside]

/-- A cut before the first character leaves all of the text behind it. -/
theorem cutAt_of_head (hback : ∀ c ∈ back.head?, p c = true) : cutAt p back = ([], back) := by
  cases back with
  | nil => rfl
  | cons c back => simp [cutAt, hback c rfl]

/-- What begins with a mark changes nothing before the first cut. -/
theorem cutAt_fst_append (hback : ∀ c ∈ back.head?, p c = true) (front : List Char) :
    (cutAt p (front ++ back)).1 = (cutAt p front).1 := by
  induction front with
  | nil => rw [List.nil_append, cutAt_of_head hback]; rfl
  | cons c front ih =>
    simp only [cutAt] at ih ⊢
    rw [List.cons_append, List.takeWhile_cons, List.takeWhile_cons, ih]

/-- A text is split at the first separator. -/
theorem splitOnce_append (hfront : sep ∉ front) (back : List Char) :
    splitOnce sep (front ++ sep :: back) = (front, some back) := by
  have hplain : ∀ c ∈ front, (c == sep) = false := fun c hc =>
    beq_eq_false_iff_ne.mpr fun heq => hfront (heq ▸ hc)
  have hcut : cutAt (· == sep) (sep :: back) = ([], sep :: back) := cutAt_of_head (by simp)
  rw [splitOnce, cutAt_append hplain, hcut, List.append_nil]

/-- What a split leaves in front stands before the first separator. -/
theorem fst_splitOnce (sep : Char) (cs : List Char) :
    (splitOnce sep cs).1 = cs.takeWhile (· != sep) := by
  have hcut : (cutAt (· == sep) cs).1 = cs.takeWhile (· != sep) := rfl
  rw [← hcut, splitOnce]
  split
  next heq => rw [heq]
  next heq => rw [heq]

/-- A text without the separator is not split. -/
theorem splitOnce_of_notMem (hfront : sep ∉ front) : splitOnce sep front = (front, none) := by
  have hplain : ∀ c ∈ front, (c == sep) = false := fun c hc =>
    beq_eq_false_iff_ne.mpr fun heq => hfront (heq ▸ hc)
  have hcut := cutAt_append hplain []
  rw [List.append_nil] at hcut
  rw [splitOnce, hcut, cutAt_of_head (by simp), List.append_nil]

/-- The parts that a split leaves make up the text, and the separator is not in the first. -/
theorem eq_of_splitOnce {cs : List Char} (h : splitOnce sep cs = (front, some back)) :
    cs = front ++ sep :: back ∧ sep ∉ front := by
  unfold splitOnce at h
  split at h
  next => cases h
  next first c later hcut =>
    obtain ⟨rfl, hlater⟩ := Prod.mk.inj h
    obtain rfl := Option.some.inj hlater
    obtain ⟨hfirst, hrest⟩ := Prod.mk.inj hcut
    have hc := List.head?_dropWhile_not (fun c => !(c == sep)) cs
    rw [hrest] at hc
    obtain rfl : c = sep := by simpa using hc
    refine ⟨?_, fun hmem => ?_⟩
    · rw [← hfirst, ← hrest, List.takeWhile_append_dropWhile]
    · rw [← hfirst] at hmem
      simpa using List.mem_takeWhile_imp hmem

/-- A text that is not split lacks the separator. -/
theorem eq_of_splitOnce_none {cs : List Char} (h : splitOnce sep cs = (front, none)) :
    cs = front ∧ sep ∉ front := by
  by_cases hsep : sep ∈ cs
  · obtain ⟨first, later, rfl, hfirst⟩ := List.eq_append_cons_of_mem hsep
    rw [splitOnce_append hfirst] at h
    cases h
  · rw [splitOnce_of_notMem hsep] at h
    obtain ⟨rfl, -⟩ := Prod.mk.inj h
    exact ⟨rfl, hsep⟩

end CloudEmulator.Text
