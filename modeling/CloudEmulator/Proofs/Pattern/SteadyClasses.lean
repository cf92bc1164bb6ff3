import CloudEmulator.Pattern.Bracket
import CloudEmulator.Proofs.Pattern.Steady

/-!
# The readers of escapes and of bracketed classes are steady

Inside of a bracketed class a closing bracket stands for itself, so its reader goes past
many of them; it still stops in front of the one that closes its text.
-/

namespace CloudEmulator.Pattern

open Reading Fallible

section Repetitions

/-- Reading a decimal number is steady. -/
theorem readDecimal_steady : Steady readDecimal :=
  .bind (.run _) fun _ => .bind (.run _) fun _ => .bind (.run _) fun _ => .lift

/-- Reading the bounds of a repetition is steady. -/
theorem readBounds_steady (flags : Flags) : Steady (readBounds flags) := by
  have hclosed : Steady (expect ['\x7d'] .badRepetition) := .expect (by decide)
  refine .bind (.skipIgnored flags) fun _ => .bind readDecimal_steady fun low =>
    .bind (.accept (by decide)) fun _ => .ite ?_ (.bind hclosed fun _ => .pure _)
  refine .bind (.skipIgnored flags) fun _ => .bind (.accept (by decide)) fun _ => .ite (.pure _) ?_
  exact .bind readDecimal_steady fun high => .bind hclosed fun _ => .ite (.pure _) .throw

/-- Dropping the mark of a lazy repetition is steady. -/
theorem skipLazyMark_steady : Steady skipLazyMark :=
  .bind (.accept (by decide)) fun _ => .pure ()

/-- Reading a counted repetition is steady. -/
theorem readCounted_steady (flags : Flags) : Steady (readCounted flags) :=
  .bind (readBounds_steady flags) fun bounds => .bind (.skipIgnored flags) fun _ =>
    .bind skipLazyMark_steady fun _ => .pure bounds

end Repetitions

section Escapes

/-- Reading hexadecimal digits is steady. -/
theorem readHex_steady (flags : Flags) (count : Nat) : Steady (readHex flags count) :=
  .bind (.skipIgnored flags) fun _ => .bind (.accept (by decide)) fun _ =>
    .ite (.bind (.upTo _) fun _ => .lift)
      (.bind (.exactly count) fun _ => .bind .lift fun _ => .ite .throw (.pure _))

/-- Reading the name of a property is steady. -/
theorem readPropertyName_steady (flags : Flags) : Steady (readPropertyName flags) :=
  .bind (.skipIgnored flags) fun _ => .bind (.accept (by decide)) fun _ =>
    .ite (.upTo _) (.bind .next fun _ => .ite .throw (.pure _))

/-- Reading a property class is steady. -/
theorem readProperty_steady (flags : Flags) (negated : Bool) :
    Steady (readProperty flags negated) :=
  .ite (.bind (readPropertyName_steady flags) fun _ => .bind .lift fun _ =>
    .pure _) .throw

/-- Reading a word boundary is steady. -/
theorem readBoundary_steady (flags : Flags) : Steady (readBoundary flags) := by
  refine .bind (.accept (by decide)) fun _ => .ite ?_ (.pure _)
  refine .bind (.skipIgnored flags) fun _ => .bind (.run _) fun name => .ite ?_ ?_
  · exact .bind (readCounted_steady flags) fun _ => .pure _
  · exact .bind (.skipIgnored flags) fun _ => .bind (.expect (by decide)) fun _ =>
      .bind .lift fun _ => .pure _

/-- Reading an escape is steady. -/
theorem readEscape_steady (flags : Flags) : Steady (readEscape flags) := by
  refine .bind .next fun c => .ite .throw (.ite (.pure _) ?_)
  -- Code points, properties and the boundary read on; negated shorthands ask for a flag.
  split
  case h_1 | h_2 | h_3 => exact .bind (readHex_steady flags _) fun _ => .pure _
  case h_4 | h_5 => exact .bind (readProperty_steady flags _) fun _ => .pure _
  case h_9 | h_10 | h_11 => exact .ite (.pure _) .throw
  case h_20 => exact readBoundary_steady flags
  case h_24 => exact .throw
  all_goals exact .pure _

end Escapes

section Brackets

/-- A run of lower case letters ends where the text may be closed. -/
theorem lowerRun_closing {cs tail : List Char} (htail : Closing tail) :
    (cs ++ tail).dropWhile Char.isLower = cs.dropWhile Char.isLower ++ tail ∧
      (cs ++ tail).takeWhile Char.isLower = cs.takeWhile Char.isLower := by
  induction cs with
  | nil => cases htail <;> exact ⟨rfl, rfl⟩
  | cons c cs ih =>
    cases hlower : c.isLower with
    | true => simp [hlower, ih]
    | false => simp [hlower]

/-- The same name of a class is found in front of all that closes a text. -/
theorem classNamed?_closing {negated : Bool} {cs tail : List Char} (htail : Closing tail) :
    classNamed? negated (cs ++ tail) =
      (classNamed? negated cs).map (Prod.map id (· ++ tail)) := by
  unfold classNamed?
  rw [(lowerRun_closing htail).1, (lowerRun_closing htail).2]
  rcases cs.dropWhile Char.isLower with _ | ⟨c, _ | ⟨d, after⟩⟩
  · cases htail <;> rfl
  · cases htail <;> simp
  · simp only [List.cons_append]
    split
    next heq =>
      cases heq
      simp only [Option.map_map]
      rfl
    next hnot =>
      split
      next heq =>
        cases heq
        exact absurd rfl (hnot _)
      next => rfl

/-- The same named class is found in front of all that closes a text. -/
theorem namedClass?_closing {cs tail : List Char} (htail : Closing tail) :
    namedClass? (cs ++ tail) = (namedClass? cs).map (Prod.map id (· ++ tail)) := by
  rcases cs with _ | ⟨c, cs⟩
  · cases htail <;> rfl
  · by_cases hcolon : c = ':'
    · subst hcolon
      rcases cs with _ | ⟨d, cs⟩
      · have hsame : classNamed? false ([] ++ tail) = _ := classNamed?_closing htail
        cases htail <;> exact hsame
      · by_cases hcaret : d = '^'
        · subst hcaret
          exact classNamed?_closing htail
        · have hsame : classNamed? false (d :: cs ++ tail) = _ := classNamed?_closing htail
          simpa [namedClass?, hcaret] using hsame
    · simp [namedClass?, hcolon]

/-- What follows the name of a class is a part of the text. -/
theorem classNamed?_suffix {negated : Bool} {cs after : List Char} {named : Bool × CharClass}
    (h : classNamed? negated cs = some (named, after)) : after <:+ cs := by
  unfold classNamed? at h
  split at h
  next hrest =>
    obtain ⟨cls, -, hcls⟩ := Option.map_eq_some_iff.mp h
    cases hcls
    have hsuffix := List.dropWhile_suffix (l := cs) Char.isLower
    rw [hrest] at hsuffix
    exact (List.suffix_append [':', ']'] _).trans hsuffix
  next => cases h

/-- What follows a named class is a part of the text. -/
theorem namedClass?_suffix {cs after : List Char} {named : Bool × CharClass}
    (h : namedClass? cs = some (named, after)) : after <:+ cs := by
  unfold namedClass? at h
  split at h
  · exact (classNamed?_suffix h).trans (List.suffix_append [':', '^'] _)
  · exact (classNamed?_suffix h).trans (List.suffix_append [':'] _)
  · cases h

/-- Reading a named class is steady. -/
theorem readNamedClass_steady : Steady readNamedClass where
  suffix {cs a rest} h := by
    unfold readNamedClass at h
    cases hnamed : namedClass? cs with
    | none =>
      rw [hnamed] at h
      cases h
      exact List.suffix_refl _
    | some found =>
      rw [hnamed] at h
      cases h
      exact namedClass?_suffix hnamed
  replace {cs a rest tail} h htail := by
    unfold readNamedClass at h ⊢
    rw [namedClass?_closing (.bracket [])] at h
    rw [namedClass?_closing htail]
    cases hnamed : namedClass? cs with
    | none =>
      rw [hnamed] at h
      obtain ⟨rfl, hrest⟩ := Prod.mk.inj (Except.ok.inj h)
      rw [List.append_cancel_right hrest]
      rfl
    | some found =>
      rw [hnamed] at h
      obtain ⟨rfl, hrest⟩ := Prod.mk.inj (Except.ok.inj h)
      rw [← List.append_cancel_right hrest]
      rfl

/-- Reading an atom of a class is steady. -/
theorem readClassAtom_steady (flags : Flags) (c : Char) : Steady (readClassAtom flags c) :=
  .ite (readEscape_steady flags) (.pure _)

/-- Whether a range goes on does not depend on what closes the text. -/
theorem endsRange_closing {rest tail : List Char} (htail : Closing tail) :
    endsRange (rest ++ tail) = endsRange rest := by
  cases rest with
  | nil => cases htail <;> rfl
  | cons c rest => rfl

/-- A dash that ends a range does so in front of all that closes a text. -/
theorem endsRange_replace {flags : Flags} {cs tail : List Char}
    (h : endsRange (afterIgnored flags (cs ++ [')'])) = true) (htail : Closing tail) :
    endsRange (afterIgnored flags (cs ++ tail)) = true := by
  rcases List.suffix_concat_iff.mp (afterIgnored_suffix flags (cs ++ [')'])) with
    hnone | ⟨rest, hrest, -⟩
  · rw [hnone] at h
    cases h
  · rw [hrest, endsRange_closing (.bracket [])] at h
    rw [afterIgnored_replace hrest htail, endsRange_closing htail, h]

/-- Reading the dash of a range is steady. -/
theorem readRangeMark_steady (flags : Flags) : Steady (readRangeMark flags) where
  suffix {cs a rest} h := by
    unfold readRangeMark at h
    split at h
    · dsimp only at h
      split at h <;> cases h
      · exact List.suffix_refl _
      · exact (afterIgnored_suffix ..).trans (List.suffix_cons ..)
    · cases h
      exact List.suffix_refl _
  replace {cs a rest tail} h htail := by
    rcases cs with _ | ⟨c, cs⟩
    · obtain ⟨rfl, hrest⟩ := Prod.mk.inj (Except.ok.inj h)
      obtain rfl : rest = [] := by simpa using hrest
      cases htail <;> rfl
    · by_cases hdash : c = '-'
      · subst hdash
        simp only [List.cons_append, readRangeMark] at h ⊢
        split at h
        next hends =>
          obtain ⟨rfl, hrest⟩ := Prod.mk.inj (Except.ok.inj h)
          obtain rfl : '-' :: cs = rest := List.append_cancel_right hrest
          rw [if_pos (endsRange_replace hends htail)]
          rfl
        next hends =>
          obtain ⟨rfl, hrest⟩ := Prod.mk.inj (Except.ok.inj h)
          rw [hrest, endsRange_closing (.bracket []), Bool.not_eq_true] at hends
          rw [afterIgnored_replace hrest htail, endsRange_closing htail, hends]
          rfl
      · have hplain (after : List Char) :
            readRangeMark flags (c :: cs ++ after) = .ok (false, c :: cs ++ after) := by
          simp [readRangeMark, hdash]
        rw [hplain] at h ⊢
        obtain ⟨rfl, hrest⟩ := Prod.mk.inj (Except.ok.inj h)
        rw [List.append_cancel_right hrest]

/-- Reading an item of a class is steady. -/
theorem readClassItem_steady (flags : Flags) (c : Char) : Steady (readClassItem flags c) := by
  refine .bind (readClassAtom_steady flags c) fun first => .bind (.skipIgnored flags) fun _ =>
    .bind (readRangeMark_steady flags) fun _ => .ite ?_ .lift
  exact .bind .next fun last => .bind (readClassAtom_steady flags last) fun _ =>
    .lift

/-- Reading an operation is steady. -/
theorem readOperation_steady (c : Char) : Steady (readOperation c) := by
  unfold readOperation
  cases hsign : SetOperation.ofSign? c with
  | none => exact .pure none
  | some operation =>
    have hclose : ')' ∉ [c] := by
      intro hmem
      obtain rfl := List.mem_singleton.mp hmem
      cases hsign
    exact .bind (.accept hclose) fun _ => .ite (.pure _) (.pure none)

/-- Reading the opening of a class is steady. -/
theorem openClass_steady (flags : Flags) : Steady (openClass flags) :=
  .bind (.skipIgnored flags) fun _ => .bind (.accept (by decide)) fun _ => .pure _

/-- Reading the rest of a step of a class is steady. -/
theorem readClassBegun_steady (flags : Flags) (current : OpenClass) (outer : List OpenClass)
    (c : Char) : Steady (readClassBegun flags current outer c) := by
  refine .ite (.pure _) ?_
  dsimp only
  split
  · refine .bind readNamedClass_steady fun named => ?_
    cases named with
    | some named => exact .pure _
    | none => exact .bind (openClass_steady flags) fun _ => .pure _
  · refine .bind .lift fun closed => ?_
    cases outer <;> exact .pure _
  · refine .bind (readOperation_steady _) fun operation => ?_
    cases operation with
    | some operation => exact .pure _
    | none => exact .bind (readClassItem_steady flags _) fun _ => .pure _

/-- Reading a step of a class is steady. -/
theorem readClassStep_steady (flags : Flags) (current : OpenClass) (outer : List OpenClass) :
    Steady (readClassStep flags current outer) :=
  .bind (.skipIgnored flags) fun _ => .bind .next fun c =>
    readClassBegun_steady flags current outer c

/-- Reading classes that are open is steady, however long it may take. -/
theorem readOpenClasses_steady (flags : Flags) (fuel : Nat) (current : OpenClass)
    (outer : List OpenClass) : Steady (readOpenClasses flags fuel current outer) := by
  induction fuel generalizing current outer with
  | zero => exact .throw
  | succ fuel ih =>
    refine .bind (readClassStep_steady flags current outer) fun step => ?_
    cases step with
    | closed read => exact .pure read
    | pending current outer => exact ih current outer

/-- Each step of the reading of classes takes something off the text. -/
theorem length_lt_of_readClassStep {flags : Flags} {current : OpenClass} {outer : List OpenClass}
    {cs rest : List Char} {step : ClassStep}
    (h : readClassStep flags current outer cs = .ok (step, rest)) : rest.length < cs.length := by
  unfold readClassStep at h
  obtain ⟨_, mid, hskip, hbegun⟩ := then_eq_ok.mp h
  have hshorter := length_lt_of_next (readClassBegun_steady flags current outer) hbegun
  exact Nat.lt_of_lt_of_le hshorter ((Steady.skipIgnored flags).suffix hskip).length_le

/-- As many steps as there are characters are enough to read classes. -/
theorem readOpenClasses_fuel {flags : Flags} {n m : Nat} {current : OpenClass}
    {outer : List OpenClass} {cs rest : List Char} {read : ReadClass}
    (h : readOpenClasses flags n current outer cs = .ok (read, rest)) (hm : cs.length < m) :
    readOpenClasses flags m current outer cs = .ok (read, rest) := by
  induction n generalizing m current outer cs with
  | zero => cases h
  | succ n ih =>
    obtain ⟨m, rfl⟩ := Nat.exists_eq_add_one_of_ne_zero (Nat.ne_zero_of_lt hm)
    obtain ⟨step, mid, hstep, hlater⟩ := then_eq_ok.mp h
    have hshorter := length_lt_of_readClassStep hstep
    refine then_eq_ok.mpr ⟨step, mid, hstep, ?_⟩
    cases step with
    | closed read => exact hlater
    | pending current outer => exact ih hlater (by omega)

/-- Reading a bracketed class is steady. -/
theorem readBracket_steady (flags : Flags) : Steady (readBracket flags) where
  suffix h := by
    obtain ⟨opened, mid, hopened, hlater⟩ := then_eq_ok.mp h
    exact ((readOpenClasses_steady ..).suffix hlater).trans
      ((openClass_steady flags).suffix hopened)
  replace {cs read rest tail} h htail := by
    obtain ⟨opened, mid, hopened, hlater⟩ := then_eq_ok.mp h
    obtain ⟨mid, rfl⟩ := exists_eq_append_of_suffix ((readOpenClasses_steady ..).suffix hlater)
    refine then_eq_ok.mpr ⟨opened, _, (openClass_steady flags).replace hopened htail, ?_⟩
    have hmore := (readOpenClasses_steady ..).replace hlater htail
    exact readOpenClasses_fuel hmore (Nat.lt_succ_self _)

end Brackets

end CloudEmulator.Pattern
