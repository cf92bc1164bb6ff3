import CloudEmulator.Proofs.Pattern.Reads

/-!
# Patterns between brackets

What is read of a text that has another between its brackets. The inner text keeps its
alternatives as long as its own reading neither stops at a bracket that it does not open
nor runs over the bracket that closes it.
-/

namespace CloudEmulator.Pattern

section Steps

variable {r s : Reader}

/-- Where nothing more comes, reading ends. -/
theorem reads_stop_iff {rest : List Char} (hnext : readNext r.flags r.rest = .ok (.stop, rest)) :
    Reads r s ↔ s = { r with rest, done := r.parts :: r.done, parts := [] } := by
  constructor
  · exact fun h => h.unique (.stop hnext)
  · rintro rfl
    exact .stop hnext

/-- Where a piece comes next, reading goes on behind it. -/
theorem reads_piece_iff {rest : List Char} {flags : Flags} {piece : Piece} {parts : List Part}
    (hnext : readNext r.flags r.rest = .ok (.piece flags piece, rest))
    (hparts : piece.addTo r.parts = .ok parts) :
    Reads r s ↔ Reads { r with rest, flags, parts } s := by
  refine ⟨fun h => ?_, .piece hnext hparts⟩
  cases h with
  | stop h => cases hnext.symm.trans h
  | bar h => cases hnext.symm.trans h
  | group h => cases hnext.symm.trans h
  | piece h hadd hlater =>
    cases hnext.symm.trans h
    cases hparts.symm.trans hadd
    exact hlater

/-- Where a group comes next, its inside is read and then what is behind it. -/
theorem reads_group_iff {rest : List Char} {flags : Flags}
    (hnext : readNext r.flags r.rest = .ok (.group flags none, rest)) :
    Reads r s ↔ ∃ inner after, Reads (.begin rest flags r.names) inner ∧
      inner.rest = ')' :: after ∧
      Reads { r with rest := after, names := inner.names,
                     parts := (Part.ofAlternatives inner.done).group :: r.parts } s := by
  constructor
  · intro h
    cases h with
    | stop h => cases hnext.symm.trans h
    | bar h => cases hnext.symm.trans h
    | piece h => cases hnext.symm.trans h
    | group h hadd hinner hafter hlater =>
      cases hnext.symm.trans h
      cases hadd
      exact ⟨_, _, hinner, hafter, hlater⟩
  · rintro ⟨inner, after, hinner, hafter, hlater⟩
    exact .group hnext rfl hinner hafter hlater

end Steps

section Groups

variable {written : String} {alternatives : List (List Part)}

/-- The opening of a group without a name or flags of its own. -/
theorem readNext_opening (cs : List Char) :
    readNext {} ('(' :: '?' :: ':' :: cs) = .ok (.group {} none, cs) := rfl

/-- The caret that holds a pattern to the start of a text. -/
theorem readNext_caret (cs : List Char) :
    readNext {} ('^' :: cs) = .ok (.piece {} (.part (.ofCheck .textStart)), cs) := rfl

/-- A text between brackets keeps its alternatives, where the bracket behind it is one
too many for it. -/
theorem reads_closed (h : alternatives? written = .ok alternatives)
    (houtside : alternatives? (written ++ ")") = .error .unopenedGroup) :
    ∃ inner, Reads (.begin (written.toList ++ [')']) {} []) inner ∧ inner.rest = [')'] ∧
      inner.done = alternatives := by
  obtain ⟨s, hs, hrest, rfl⟩ := alternatives?_eq_ok.mp h
  obtain ⟨inner, hinner, hbehind⟩ := alternatives?_eq_unopened.mp houtside
  rw [String.toList_append] at hinner
  rcases List.suffix_concat_iff.mp hinner.suffix with hnone | ⟨rest, hclose, -⟩
  · exact absurd hnone hbehind
  · have halone := hinner.replace rfl hclose .nothing
    rw [List.append_nil, List.append_nil] at halone
    obtain rfl := hs.unique halone
    obtain rfl : rest = [] := hrest
    exact ⟨inner, hinner, hclose, rfl⟩

/-- Where a text between brackets is read up to a closing one, that is the bracket behind
it, unless the text closes a group that it does not open. -/
theorem closed_of_reads {inner : Reader} {after : List Char}
    (hopened : alternatives? written ≠ .error .unopenedGroup)
    (hinner : Reads (.begin (written.toList ++ [')']) {} []) inner)
    (hclose : inner.rest = ')' :: after) :
    after = [] ∧ alternatives? written = .ok inner.done ∧
      alternatives? (written ++ ")") = .error .unopenedGroup := by
  have hsuffix : ')' :: after <:+ written.toList ++ [')'] := hclose ▸ hinner.suffix
  rcases List.suffix_concat_iff.mp hsuffix with hnone | ⟨rest, hrest, -⟩
  · cases hnone
  · have halone := hinner.replace rfl (hclose.trans hrest) .nothing
    rw [List.append_nil, List.append_nil] at halone
    cases rest with
    | nil =>
      refine ⟨(List.cons.inj hrest).2, alternatives?_eq_ok.mpr ⟨_, halone, rfl, rfl⟩, ?_⟩
      refine alternatives?_eq_unopened.mpr ⟨inner, ?_, hclose ▸ List.cons_ne_nil _ _⟩
      rw [String.toList_append]
      exact hinner
    | cons c rest =>
      exact absurd (alternatives?_eq_unopened.mpr ⟨_, halone, List.cons_ne_nil _ _⟩) hopened

/-- The alternatives of an anchored text: the check of the start, and a group of the text's
own alternatives. There are any exactly where the text has some and the bracket behind it
closes the group. -/
theorem alternatives?_anchoredText {anchored : List (List Part)}
    (hopened : alternatives? written ≠ .error .unopenedGroup) :
    alternatives? (anchoredText written) = .ok anchored ↔
      ∃ alternatives, alternatives? written = .ok alternatives ∧
        alternatives? (written ++ ")") = .error .unopenedGroup ∧
        anchored = [[(Part.ofAlternatives alternatives).group, .ofCheck .textStart]] := by
  have htext : (anchoredText written).toList =
      '^' :: '(' :: '?' :: ':' :: (written.toList ++ [')']) := by
    simp [anchoredText, String.toList_append]
  have hreads (s : Reader) : Reads (.begin (anchoredText written).toList {} []) s ↔
      ∃ inner after, Reads (.begin (written.toList ++ [')']) {} []) inner ∧
        inner.rest = ')' :: after ∧ Reads ⟨after, {}, inner.names, [],
          [(Part.ofAlternatives inner.done).group, .ofCheck .textStart]⟩ s := by
    let inside : List Char := '(' :: '?' :: ':' :: (written.toList ++ [')'])
    rw [htext]
    refine (reads_piece_iff (r := .begin ('^' :: inside) {} [])
      (readNext_caret inside) rfl).trans ?_
    exact reads_group_iff (r := ⟨inside, {}, [], [], [.ofCheck .textStart]⟩) (readNext_opening _)
  rw [alternatives?_eq_ok]
  constructor
  · rintro ⟨s, hs, -, rfl⟩
    obtain ⟨inner, after, hinner, hclose, hlater⟩ := (hreads s).mp hs
    obtain ⟨rfl, halone, houtside⟩ := closed_of_reads hopened hinner hclose
    obtain rfl := (reads_stop_iff rfl).mp hlater
    exact ⟨inner.done, halone, houtside, rfl⟩
  · rintro ⟨_, halone, houtside, rfl⟩
    obtain ⟨inner, hinner, hclose, rfl⟩ := reads_closed halone houtside
    exact ⟨_, (hreads _).mpr ⟨inner, [], hinner, hclose, .stop rfl⟩, rfl, rfl⟩

/-- A text has at least one alternative. -/
theorem exists_first_alternative (h : alternatives? written = .ok alternatives) :
    ∃ later first, alternatives = later ++ [first] := by
  obtain ⟨s, hs, -, rfl⟩ := alternatives?_eq_ok.mp h
  obtain ⟨later, first, hdone, -⟩ := hs.behind
  exact ⟨later, first, hdone⟩

/-- A text read behind a group becomes a part of the group's alternative only up to its
own first bar. -/
theorem reads_behind_group {base path : String} {bases later : List (List Part)}
    {first : List Part} (hbase : alternatives? base = .ok bases)
    (houtside : alternatives? (base ++ ")") = .error .unopenedGroup)
    (hpath : alternatives? path = .ok (later ++ [first])) {s : Reader}
    (h : Reads (.begin ("(?:" ++ base ++ ")" ++ path).toList {} []) s) :
    s.rest = [] ∧ s.done = later ++ [first ++ [(Part.ofAlternatives bases).group]] := by
  have htext : ("(?:" ++ base ++ ")" ++ path).toList =
      '(' :: '?' :: ':' :: (base.toList ++ ')' :: path.toList) := by
    simp [String.toList_append]
  obtain ⟨closed, hclosed, hclose, rfl⟩ := reads_closed hbase houtside
  have hbracket : closed.rest = [] ++ [')'] := hclose
  have hgroup := hclosed.replace rfl hbracket (.bracket path.toList)
  rw [htext] at h
  obtain ⟨inner, after, hinner, hafter, hlater⟩ :=
    (reads_group_iff (r := .begin ('(' :: _) {} []) (readNext_opening _)).mp h
  obtain rfl := hinner.unique hgroup
  obtain rfl : path.toList = after := (List.cons.inj hafter).2
  obtain ⟨names, -, hunnamed⟩ := hlater.of_subset (List.nil_subset _)
  obtain ⟨alone, halone, hrest, hdone⟩ := alternatives?_eq_ok.mp hpath
  obtain ⟨more, front, hsplit, hbehind⟩ := halone.behind
  obtain ⟨rfl, hfirst⟩ := List.append_inj' (hsplit.symm.trans hdone) rfl
  obtain rfl : front = first := List.singleton_inj.mp hfirst
  have hsame := hunnamed.unique (hbehind [(Part.ofAlternatives closed.done).group] [])
  exact ⟨(congrArg Reader.rest hsame).trans hrest, congrArg Reader.done hsame⟩

end Groups

end CloudEmulator.Pattern
