import CloudEmulator.Proofs.Pattern.Grouping
import CloudEmulator.Proofs.Pattern.Meaning
import CloudEmulator.Routing.UrlIndex

/-!
# Anchored patterns match at the start

A pattern is held to the start of a URL by writing its text into a group behind a caret.
Where the text opens every group that it closes, this neither changes what it matches
from the start on nor accepts it where it has no meaning of its own. A text that closes
the group around it escapes from the caret.
-/

namespace CloudEmulator.AnchoredPattern

open Pattern Fallible

/-- The part that anchored alternatives make. -/
def anchoredPart (alternatives : List (List Part)) : Part :=
  .ofAlternatives [[(Part.ofAlternatives alternatives).group, .ofCheck .textStart]]

/-- Anchoring nests a part twice. -/
theorem anchoredPart_depth (alternatives : List (List Part)) :
    (anchoredPart alternatives).depth = (Part.ofAlternatives alternatives).depth + 2 := by
  simp [anchoredPart, Part.ofAlternatives, Part.alternatives, Part.sequence, Part.group,
    Part.ofCheck]
  omega

/-- An anchored part checks the start and goes on with the alternatives. -/
theorem anchoredPart_pattern (alternatives : List (List Part)) :
    (anchoredPart alternatives).pattern =
      .append (.check .textStart) (.append (Part.ofAlternatives alternatives).pattern .empty) :=
  rfl

/-- An empty part takes nothing behind another. -/
theorem size_append_empty (p : Pattern) : (append p empty).size = p.size := by
  cases p <;> rfl

/-- Anchoring adds the state that checks the start. -/
theorem anchoredPart_size (alternatives : List (List Part)) :
    (anchoredPart alternatives).pattern.size =
      (Part.ofAlternatives alternatives).pattern.size + stateSize := by
  have hsize : (anchoredPart alternatives).pattern.size = stateSize +
      (append (Part.ofAlternatives alternatives).pattern .empty).size := rfl
  rw [hsize, size_append_empty, Nat.add_comm]

/-- The anchored part matches from the first position on, where the alternatives do. -/
theorem spans_anchoredPart_iff {alternatives : List (List Part)} {text : Array Char} {i j : Nat}
    (hi : i ≤ text.size) :
    Spans text (anchoredPart alternatives).pattern i j ↔
      i = 0 ∧ Spans text (Part.ofAlternatives alternatives).pattern 0 j := by
  simp only [anchoredPart_pattern, Spans, textStart_holds_iff hi]
  constructor
  · rintro ⟨_, ⟨rfl, rfl⟩, _, h, rfl⟩
    exact ⟨rfl, h⟩
  · rintro ⟨rfl, h⟩
    exact ⟨0, ⟨rfl, rfl⟩, j, h, rfl⟩

/-- A text that closes no group around it is accepted where it has alternatives, closes
the group that it is put into, and leaves room for what anchoring adds. -/
theorem compile?_eq_ok_iff {written : String} {p : AnchoredPattern}
    (hopened : alternatives? written ≠ .error .unopenedGroup) :
    compile? written = .ok p ↔
      ∃ alternatives, alternatives? written = .ok alternatives ∧
        alternatives? (written ++ ")") = .error .unopenedGroup ∧
        ((anchoredPart alternatives).depth ≤ maxDepth ∧
          (anchoredPart alternatives).pattern.size ≤ maxSize) ∧
        p = ⟨anchoredText written, (anchoredPart alternatives).pattern⟩ := by
  unfold compile?
  simp only [map_eq_ok, compile?_eq_ok, alternatives?_anchoredText hopened, Part.compile?_eq_ok]
  constructor
  · rintro ⟨_, ⟨_, ⟨alternatives, halone, houtside, rfl⟩, hfits, rfl⟩, rfl⟩
    exact ⟨alternatives, halone, houtside, hfits, rfl⟩
  · rintro ⟨alternatives, halone, houtside, hfits, rfl⟩
    exact ⟨_, ⟨_, ⟨alternatives, halone, houtside, rfl⟩, hfits, rfl⟩, rfl⟩

/-- An accepted text that closes no group around it is a pattern on its own, and the anchored
one matches the URLs in which that has a match from the first character on. -/
theorem exists_spans_of_compile? {written : String} {p : AnchoredPattern}
    (h : Pattern.compile? written ≠ .error .unopenedGroup) (hp : compile? written = .ok p) :
    ∃ pattern, Pattern.compile? written = .ok pattern ∧
      ∀ url, p.isMatch url = true ↔ ∃ j, Spans url.toList.toArray pattern 0 j := by
  have hopened : alternatives? written ≠ .error .unopenedGroup :=
    fun he => h (compile?_eq_unopened.mpr he)
  obtain ⟨alternatives, halone, -, ⟨hdepth, hsize⟩, rfl⟩ := (compile?_eq_ok_iff hopened).mp hp
  rw [anchoredPart_depth] at hdepth
  rw [anchoredPart_size] at hsize
  refine ⟨(Part.ofAlternatives alternatives).pattern, ?_, fun url => ?_⟩
  · refine compile?_eq_ok.mpr ⟨alternatives, halone, Part.compile?_eq_ok.mpr ⟨⟨?_, ?_⟩, rfl⟩⟩
    · omega
    · omega
  · rw [isMatch, matchesIn_iff]
    constructor
    · rintro ⟨i, hi, j, hij⟩
      exact ⟨j, ((spans_anchoredPart_iff hi).mp hij).2⟩
    · rintro ⟨j, hj⟩
      exact ⟨0, Nat.zero_le _, j, (spans_anchoredPart_iff (Nat.zero_le _)).mpr ⟨rfl, hj⟩⟩

/-- What anchoring does to a text that opens every group it closes. -/
structure AnchoringLaws (written : String) : Prop where
  /-- The text is accepted exactly where it has alternatives that leave room for the group
  and the check around them, and does not hide the bracket behind it in a comment. -/
  accepted_iff : (∃ p, compile? written = .ok p) ↔
    ∃ alternatives, alternatives? written = .ok alternatives ∧
      Pattern.compile? (written ++ ")") = .error .unopenedGroup ∧
      (Part.ofAlternatives alternatives).depth + 2 ≤ maxDepth ∧
      (Part.ofAlternatives alternatives).pattern.size + stateSize ≤ maxSize
  /-- An accepted text is a pattern on its own, and the anchored one matches the URLs in
  which that has a match from the first character on. -/
  matches_iff {p : AnchoredPattern} : compile? written = .ok p →
    ∃ pattern, Pattern.compile? written = .ok pattern ∧
      ∀ url, p.isMatch url = true ↔ ∃ j, Spans url.toList.toArray pattern 0 j
  /-- No match of an accepted text starts in the middle. -/
  starts {p : AnchoredPattern} {text : Array Char} {i j : Nat} : compile? written = .ok p →
    i ≤ text.size → Spans text p.pattern i j → i = 0

/-- **Anchoring.** A text that opens every group it closes is accepted as far as it is a
pattern on its own, and matches exactly from the first character of a URL on. -/
theorem anchoringLaws {written : String}
    (h : Pattern.compile? written ≠ .error .unopenedGroup) : AnchoringLaws written := by
  have hopened : alternatives? written ≠ .error .unopenedGroup :=
    fun he => h (compile?_eq_unopened.mpr he)
  exact {
    accepted_iff := by
      simp only [compile?_eq_ok_iff hopened, compile?_eq_unopened, anchoredPart_depth,
        anchoredPart_size]
      constructor
      · rintro ⟨_, alternatives, halone, houtside, ⟨hdepth, hsize⟩, -⟩
        exact ⟨alternatives, halone, houtside, hdepth, hsize⟩
      · rintro ⟨alternatives, halone, houtside, hdepth, hsize⟩
        exact ⟨_, alternatives, halone, houtside, ⟨hdepth, hsize⟩, rfl⟩
    matches_iff := fun hp => exists_spans_of_compile? h hp
    starts := fun hp hi hij => by
      obtain ⟨alternatives, -, -, -, rfl⟩ := (compile?_eq_ok_iff hopened).mp hp
      exact ((spans_anchoredPart_iff hi).mp hij).1 }

/-- The pattern of a service. -/
def servicePattern : String :=
  "https?://svc1\\.example\\.com"

/-- The laws of the pattern of a service, which matches from the start of a URL only. -/
theorem anchoringLaws_service :
    Pattern.compile? servicePattern ≠ .error .unopenedGroup ∧ AnchoringLaws servicePattern ∧
      (compile? servicePattern).toOption.map (fun p => (p.isMatch "https://svc1.example.com/ping",
        p.isMatch "https://other.com/https://svc1.example.com")) = some (true, false) := by
  have hopened : Pattern.compile? servicePattern ≠ .error .unopenedGroup := by
    have hfault : fault? (Pattern.compile? servicePattern) = none := by decide +kernel
    exact fun h => by simp [h, fault?] at hfault
  exact ⟨hopened, anchoringLaws hopened, by decide +kernel⟩

/-- A text that closes the group around it and opens another. -/
def escapingPattern : String :=
  "https://a\\.example\\.com)|(?:b"

/-- Such a text is no pattern, and is still accepted for a service. It then matches in the
middle of URLs. -/
theorem escapingPattern_unanchored :
    Pattern.compile? escapingPattern = .error .unopenedGroup ∧
      ∃ index, UrlIndex.register ⟨[]⟩ "svc1" escapingPattern = .ok index ∧
        index.classify? "http://other.example.com/b" = some "svc1" := by
  have hfault : fault? (Pattern.compile? escapingPattern) = some .unopenedGroup := by
    decide +kernel
  have hservice : (UrlIndex.register ⟨[]⟩ "svc1" escapingPattern).toOption.map
      (·.classify? "http://other.example.com/b") = some (some "svc1") := by decide +kernel
  refine ⟨fault?_eq_some.mp hfault, ?_⟩
  cases hindex : UrlIndex.register ⟨[]⟩ "svc1" escapingPattern with
  | error fault => simp [hindex, Except.toOption] at hservice
  | ok index => exact ⟨index, rfl, by simpa [hindex, Except.toOption] using hservice⟩

end CloudEmulator.AnchoredPattern

namespace CloudEmulator.UrlPattern

/-- A text is accepted for a service exactly where it begins with the scheme and can be
anchored. -/
theorem compile?_eq_ok {service written : String} {p : UrlPattern} :
    compile? service written = .ok p ↔ startsWithScheme written.toList = true ∧
      AnchoredPattern.compile? written = .ok p.pattern ∧ p.service = service := by
  unfold compile?
  split
  next hscheme =>
    split
    next pattern hpattern =>
      rw [Except.ok.injEq, hpattern, Except.ok.injEq]
      constructor
      · rintro rfl
        exact ⟨hscheme, rfl, rfl⟩
      · rintro ⟨-, rfl, rfl⟩
        rfl
    next refusal hrefused => simp [hrefused]
  next hscheme => simp [hscheme]

end CloudEmulator.UrlPattern
