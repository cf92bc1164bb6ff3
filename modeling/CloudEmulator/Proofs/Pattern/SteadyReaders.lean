import CloudEmulator.Pattern.Reader
import CloudEmulator.Proofs.Pattern.SteadyClasses

/-!
# The reader of what comes next is steady

Every reader up to the one of what comes next in a pattern stops in front of the
bracket that closes its text without having looked past it.
-/

namespace CloudEmulator.Pattern

open Reading Fallible

section Openings

/-- Reading the name of a group is steady. -/
theorem readGroupName_steady : Steady readGroupName := by
  refine .bind (.upTo _) fun name => ?_
  cases name with
  | nil => exact .throw
  | cons first more => exact .ite (.pure _) .throw

/-- Reading flags is steady. -/
theorem readFlags_steady (flags : Flags) : Steady (readFlags flags) :=
  .bind (.run _) fun _ => .bind .lift fun _ => .bind .next fun _ =>
    .ite (.pure _) (.ite .throw (.pure _))

/-- Reading the opening of a group is steady. -/
theorem readOpening_steady (flags : Flags) : Steady (readOpening flags) := by
  refine .bind (.skipIgnored flags) fun _ => .bind (.accept (by decide)) fun _ => .ite ?_ (.pure _)
  refine .bind (.acceptAny (by decide)) fun _ => .ite .throw ?_
  refine .bind (.acceptAny (by decide)) fun _ => .ite ?_ (readFlags_steady flags)
  exact .bind readGroupName_steady fun _ => .pure _

end Openings

section Pieces

/-- Reading a part is steady. -/
theorem readPart_steady (flags : Flags) (c : Char) : Steady (readPart flags c) := by
  unfold readPart
  split
  · exact .bind (readBracket_steady flags) fun _ => .pure _
  · exact .bind (readEscape_steady flags) fun _ => .pure _
  · exact .ite (.pure _) .throw
  all_goals exact .pure _

/-- Reading a repetition is steady. -/
theorem readRepetition_steady (flags : Flags) (c : Char) : Steady (readRepetition flags c) := by
  unfold readRepetition
  split
  case h_4 => exact .bind (readCounted_steady flags) fun _ => .pure _
  case h_5 => exact .pure none
  all_goals exact .bind skipLazyMark_steady fun _ => .pure _

/-- Reading the rest of what comes next is steady. -/
theorem readBegun_steady (flags : Flags) (c : Char) : Steady (readBegun flags c) := by
  unfold readBegun
  split
  · exact .pure _
  · exact readOpening_steady flags
  · refine .bind (readRepetition_steady flags _) fun repetition => ?_
    cases repetition with
    | some bounds => exact .pure _
    | none => exact .bind (readPart_steady flags _) fun _ => .pure _

/-- Reading what comes next is steady. -/
theorem readNext_steady (flags : Flags) : Steady (readNext flags) :=
  .bind (.skipIgnored flags) fun _ => .bind .atClose fun _ => .ite (.pure _)
    (.bind .next fun c => readBegun_steady flags c)

/-- What comes next takes something off the text, unless it is the end. -/
theorem length_lt_of_readNext {flags : Flags} {cs rest : List Char} {next : Next}
    (h : readNext flags cs = .ok (next, rest)) (hnext : next ≠ .stop) :
    rest.length < cs.length := by
  unfold readNext at h
  obtain ⟨_, mid, hskip, h⟩ := then_eq_ok.mp h
  obtain ⟨closes, mid', hclose, h⟩ := then_eq_ok.mp h
  have hmid := ((Steady.atClose.suffix hclose).trans
    ((Steady.skipIgnored flags).suffix hskip)).length_le
  split at h
  · cases h
    exact absurd rfl hnext
  · exact Nat.lt_of_lt_of_le (length_lt_of_next (readBegun_steady flags) h) hmid

end Pieces

end CloudEmulator.Pattern
