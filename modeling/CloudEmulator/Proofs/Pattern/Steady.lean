import CloudEmulator.Pattern.Reading
import CloudEmulator.Proofs.Fallible

/-!
# Readers that do not depend on what closes them

A pattern is put between brackets by writing its text between theirs. Whether it
keeps its meaning there depends on how far its reader looks: a reader is steady when,
having stopped in front of a closing bracket, it reads the same in front of every other
thing that can close a pattern.
-/

namespace CloudEmulator.Pattern

open Reading Fallible

/-- What can stand behind a pattern: nothing, or a closing bracket and more. -/
inductive Closing : List Char → Prop where
  | nothing : Closing []
  | bracket (more : List Char) : Closing (')' :: more)

/-- A reader leaves a part of its text. Having stopped in front of a closing bracket at
the end of the text, it reads the same whatever else closes the text. -/
structure Steady {α : Type} (read : Reading α) : Prop where
  suffix {cs a rest} : read cs = .ok (a, rest) → rest <:+ cs
  replace {cs a rest tail} : read (cs ++ [')']) = .ok (a, rest ++ [')']) → Closing tail →
    read (cs ++ tail) = .ok (a, rest ++ tail)

/-- A text with a known last part, of which another is left, ends in the same part. -/
theorem exists_eq_append_of_suffix {rest tail cs : List Char} (h : (rest ++ tail) <:+ cs) :
    ∃ front, cs = front ++ tail := by
  obtain ⟨before, rfl⟩ := h
  exact ⟨before ++ rest, (List.append_assoc ..).symm⟩

/-- Two readers in a row read something exactly when the second does from what the first
leaves. -/
theorem Reading.then_eq_ok {α β : Type} {x : Reading α} {f : α → Reading β} {cs rest : List Char}
    {b : β} : (x >>= f) cs = .ok (b, rest) ↔
      ∃ a mid, x cs = .ok (a, mid) ∧ f a mid = .ok (b, rest) := by
  refine bind_eq_ok.trans ⟨?_, ?_⟩
  · rintro ⟨⟨a, mid⟩, hfirst, hsecond⟩
    exact ⟨a, mid, hfirst, hsecond⟩
  · rintro ⟨a, mid, hfirst, hsecond⟩
    exact ⟨(a, mid), hfirst, hsecond⟩

namespace Steady

variable {α β : Type}

/-- Reading nothing is steady. -/
theorem pure (a : α) : Steady (Pure.pure a : Reading α) where
  suffix h := by
    cases h
    exact List.suffix_refl _
  replace h _ := by
    rw [show _ = _ from List.append_cancel_right (Prod.mk.inj (Except.ok.inj h)).2]
    exact congrArg (fun a => Except.ok (a, _)) (Prod.mk.inj (Except.ok.inj h)).1

/-- A reader that always fails is steady. -/
theorem throw {fault : Fault} : Steady (MonadExcept.throw fault : Reading α) where
  suffix := nofun
  replace := nofun

/-- Checking what has been read is steady. -/
theorem lift {x : Except Fault α} : Steady (liftM x : Reading α) := by
  cases x with
  | ok a => exact Steady.pure a
  | error fault => exact Steady.throw

/-- Steady readers in a row are steady. -/
theorem bind {x : Reading α} {f : α → Reading β} (hx : Steady x) (hf : ∀ a, Steady (f a)) :
    Steady (x >>= f) where
  suffix h := by
    obtain ⟨a, mid, hfirst, hsecond⟩ := then_eq_ok.mp h
    exact ((hf a).suffix hsecond).trans (hx.suffix hfirst)
  replace {cs b rest tail} h htail := by
    obtain ⟨a, mid, hfirst, hsecond⟩ := then_eq_ok.mp h
    obtain ⟨mid, rfl⟩ := exists_eq_append_of_suffix ((hf a).suffix hsecond)
    exact then_eq_ok.mpr ⟨a, _, hx.replace hfirst htail, (hf a).replace hsecond htail⟩

/-- A choice between steady readers is steady. -/
theorem ite {c : Prop} [Decidable c] {x y : Reading α} (hx : Steady x) (hy : Steady y) :
    Steady (if c then x else y) := by
  split
  · exact hx
  · exact hy

end Steady

section Steps

variable {missing : Fault}

/-- Reading one character is steady. -/
theorem Steady.next : Steady (Reading.next missing) where
  suffix {cs a rest} h := by
    cases cs with
    | nil => cases h
    | cons c cs =>
      cases h
      exact List.suffix_cons ..
  replace {cs a rest tail} h _ := by
    cases cs with
    | nil =>
      have hnil : [] = rest ++ [')'] := (Prod.mk.inj (Except.ok.inj h)).2
      simp at hnil
    | cons c cs =>
      obtain ⟨rfl, hrest⟩ := Prod.mk.inj (Except.ok.inj h)
      rw [← List.append_cancel_right hrest]
      rfl

/-- A reader that begins with a character takes something off its text. -/
theorem length_lt_of_next {α : Type} {read : Char → Reading α} (hread : ∀ c, Steady (read c))
    {cs rest : List Char} {a : α} (h : (next missing >>= read) cs = .ok (a, rest)) :
    rest.length < cs.length := by
  obtain ⟨c, mid, hnext, hlater⟩ := then_eq_ok.mp h
  cases cs with
  | nil => cases hnext
  | cons c cs =>
    cases hnext
    exact Nat.lt_succ_of_le ((hread c).suffix hlater).length_le

/-- A mark is accepted exactly when the text begins with it. -/
theorem accept_eq_ok {mark cs rest : List Char} {accepted : Bool} :
    accept mark cs = .ok (accepted, rest) ↔
      (accepted = true ∧ cs = mark ++ rest) ∨ (accepted = false ∧ ¬ mark <+: cs ∧ rest = cs) := by
  unfold accept
  cases hprefix : mark.isPrefixOf? cs with
  | some after =>
    have hcs := List.isPrefixOf?_eq_some_iff_append_eq.mp hprefix
    have hmark : mark <+: cs := ⟨after, hcs⟩
    subst hcs
    simp [hmark, eq_comm, and_comm]
  | none =>
    have hmark : ¬ mark <+: cs := by
      rintro ⟨after, hcs⟩
      simp [List.isPrefixOf?_eq_some_iff_append_eq.mpr hcs] at hprefix
    simp only [Except.ok.injEq, Prod.mk.injEq]
    constructor
    · rintro ⟨rfl, rfl⟩
      exact .inr ⟨rfl, hmark, rfl⟩
    · rintro (⟨-, rfl⟩ | ⟨rfl, -, rfl⟩)
      · exact absurd (List.prefix_append ..) hmark
      · exact ⟨rfl, rfl⟩

/-- A mark without a closing bracket reaches into nothing that closes a text. -/
theorem prefix_of_closing {mark cs tail : List Char} (hmark : ')' ∉ mark) (htail : Closing tail)
    (h : mark <+: cs ++ tail) : mark <+: cs := by
  obtain ⟨after, hafter⟩ := h
  rcases List.append_eq_append_iff.mp hafter with ⟨between, rfl, -⟩ | ⟨beyond, rfl, hbeyond⟩
  · exact List.prefix_append ..
  · cases beyond with
    | nil => exact ⟨[], by rw [List.append_nil, List.append_nil]⟩
    | cons c beyond =>
      cases htail with
      | nothing => cases hbeyond
      | bracket more =>
        cases hbeyond
        exact absurd (List.mem_append_right cs List.mem_cons_self) hmark

/-- Accepting a mark without a closing bracket is steady. -/
theorem Steady.accept {mark : List Char} (hmark : ')' ∉ mark) :
    Steady (Reading.accept mark) where
  suffix h := by
    rcases accept_eq_ok.mp h with ⟨-, rfl⟩ | ⟨-, -, rfl⟩
    · exact List.suffix_append ..
    · exact List.suffix_refl _
  replace {cs a rest tail} h htail := by
    rcases accept_eq_ok.mp h with ⟨rfl, hcs⟩ | ⟨rfl, hcs, hrest⟩
    · rw [← List.append_assoc] at hcs
      refine accept_eq_ok.mpr (.inl ⟨rfl, ?_⟩)
      rw [List.append_cancel_right hcs, List.append_assoc]
    · refine accept_eq_ok.mpr (.inr ⟨rfl, fun h => hcs ?_, ?_⟩)
      · exact (prefix_of_closing hmark htail h).trans (List.prefix_append ..)
      · rw [List.append_cancel_right hrest]

/-- Accepting one of several marks is steady. -/
theorem Steady.acceptAny {marks : List (List Char)} (h : ∀ mark ∈ marks, ')' ∉ mark) :
    Steady (Reading.acceptAny marks) := by
  induction marks with
  | nil => exact .pure false
  | cons mark marks ih =>
    obtain ⟨hmark, hmarks⟩ := List.forall_mem_cons.mp h
    exact .bind (.accept hmark) fun _ => .ite (.pure true) (ih hmarks)

/-- Reading a mark that must come next is steady. -/
theorem Steady.expect {mark : List Char} (hmark : ')' ∉ mark) :
    Steady (Reading.expect mark missing) :=
  .bind (.accept hmark) fun _ => .ite (.pure ()) .throw

/-- A run that stops in front of the last bracket stops in front of all that closes. -/
theorem run_replace {isKind : Char → Bool} {cs rest tail : List Char}
    (h : (cs ++ [')']).dropWhile isKind = rest ++ [')']) (htail : Closing tail) :
    (cs ++ tail).dropWhile isKind = rest ++ tail ∧
      (cs ++ tail).takeWhile isKind = (cs ++ [')']).takeWhile isKind := by
  induction cs with
  | nil =>
    cases hkind : isKind ')' with
    | true => simp [hkind] at h
    | false =>
      obtain rfl : rest = [] := by simpa [hkind] using h
      cases htail <;> simp [hkind]
  | cons c cs ih =>
    cases hkind : isKind c with
    | true =>
      simp only [List.cons_append, List.dropWhile_cons, List.takeWhile_cons, hkind, if_true] at h ⊢
      exact ⟨(ih h).1, congrArg _ (ih h).2⟩
    | false =>
      obtain rfl : c :: cs = rest := List.append_cancel_right (by simpa [hkind] using h)
      simp [hkind]

/-- Reading a run of characters is steady. -/
theorem Steady.run (isKind : Char → Bool) : Steady (Reading.run isKind) where
  suffix h := by
    cases h
    exact List.dropWhile_suffix _
  replace {cs found rest tail} h htail := by
    obtain ⟨rfl, hrest⟩ := Prod.mk.inj (Except.ok.inj h)
    obtain ⟨hdrop, htake⟩ := run_replace hrest htail
    exact congrArg Except.ok (Prod.ext htake hdrop)

/-- Reading up to a mark is steady. -/
theorem Steady.upTo (mark : Char) :
    Steady (Reading.upTo mark missing) :=
  .bind (.run _) fun found => .bind .next fun _ => .pure found

/-- Reading a number of characters is steady. -/
theorem Steady.exactly (count : Nat) :
    Steady (Reading.exactly missing count) := by
  induction count with
  | zero => exact .pure []
  | succ count ih => exact .bind .next fun c => .bind ih fun cs => .pure (c :: cs)

/-- Blanks and comments that end in front of the last bracket end in front of all that
closes. -/
theorem afterBlanks_replace {inComment : Bool} {cs rest tail : List Char}
    (h : afterBlanks inComment (cs ++ [')']) = rest ++ [')']) (htail : Closing tail) :
    afterBlanks inComment (cs ++ tail) = rest ++ tail := by
  induction cs generalizing inComment with
  | nil =>
    cases inComment with
    | true => simp [afterBlanks] at h
    | false =>
      have hblank : Text.isBlank ')' = false := by decide
      obtain rfl : rest = [] := by simpa [afterBlanks, hblank] using h
      cases htail <;> simp [afterBlanks, hblank]
  | cons c cs ih =>
    cases inComment with
    | true => exact ih h
    | false =>
      simp only [List.cons_append, afterBlanks] at h ⊢
      split at h
      next hcomment => simpa [hcomment] using ih h
      next hcomment =>
        split at h
        next hblank => simpa [hcomment, hblank] using ih h
        next hblank =>
          obtain rfl : c :: cs = rest := List.append_cancel_right h
          simp [hcomment, hblank]

/-- What is left after blanks and comments is a part of the text. -/
theorem afterBlanks_suffix (inComment : Bool) (cs : List Char) :
    afterBlanks inComment cs <:+ cs := by
  induction cs generalizing inComment with
  | nil => cases inComment <;> exact List.suffix_refl _
  | cons c cs ih =>
    cases inComment with
    | true => exact (ih _).trans (List.suffix_cons ..)
    | false =>
      unfold afterBlanks
      split
      · exact (ih _).trans (List.suffix_cons ..)
      · split
        · exact (ih _).trans (List.suffix_cons ..)
        · exact List.suffix_refl _

/-- What is left after the ignored is a part of the text. -/
theorem afterIgnored_suffix (flags : Flags) (cs : List Char) : afterIgnored flags cs <:+ cs := by
  unfold afterIgnored
  split
  · exact afterBlanks_suffix ..
  · exact List.suffix_refl _

/-- What is ignored up to the last bracket is ignored up to all that closes. -/
theorem afterIgnored_replace {flags : Flags} {cs rest tail : List Char}
    (h : afterIgnored flags (cs ++ [')']) = rest ++ [')']) (htail : Closing tail) :
    afterIgnored flags (cs ++ tail) = rest ++ tail := by
  unfold afterIgnored at h ⊢
  split at h
  next hextended =>
    rw [if_pos hextended]
    exact afterBlanks_replace h htail
  next hplain => rw [if_neg hplain, List.append_cancel_right h]

/-- Dropping what the flags ignore is steady. -/
theorem Steady.skipIgnored (flags : Flags) : Steady (Reading.skipIgnored flags) where
  suffix h := by
    cases h
    exact afterIgnored_suffix ..
  replace h htail :=
    congrArg (fun rest => Except.ok ((), rest))
      (afterIgnored_replace (Prod.mk.inj (Except.ok.inj h)).2 htail)

/-- Looking for the end of a group is steady. -/
theorem Steady.atClose : Steady Reading.atClose where
  suffix {cs a rest} h := by
    cases cs <;> cases h <;> exact List.suffix_refl _
  replace {cs a rest tail} h htail := by
    cases cs with
    | nil =>
      obtain ⟨rfl, hrest⟩ := Prod.mk.inj (Except.ok.inj h)
      obtain rfl : rest = [] := by simpa using hrest
      cases htail <;> rfl
    | cons c cs =>
      obtain ⟨rfl, hrest⟩ := Prod.mk.inj (Except.ok.inj h)
      obtain rfl : c :: cs = rest := List.append_cancel_right hrest
      rfl

end Steps

end CloudEmulator.Pattern
