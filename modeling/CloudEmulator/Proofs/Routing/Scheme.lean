import CloudEmulator.Proofs.Pattern.FirstParts
import CloudEmulator.Proofs.Routing.Anchoring

/-!
# Patterns and the scheme of URLs

A pattern is accepted only if its text begins with the scheme. This holds the first
alternative of the text to the scheme, up to its last letter, behind which a repetition may
stand. Later alternatives are held to nothing.
-/

namespace CloudEmulator

open Pattern Fallible

/-- The URL begins with the letters of the scheme. -/
def Url.HasScheme (url : String) : Prop :=
  "http".toList <+: url.toList

instance (url : String) : Decidable (Url.HasScheme url) :=
  inferInstanceAs (Decidable ("http".toList <+: url.toList))

namespace UrlPattern

/-- The parts of a text in front of the last letter of its scheme, last first. There is a
check of the start among them if the text begins with a caret. -/
def schemeParts (caret : Bool) : List Part :=
  [.ofLiteral {} 't', .ofLiteral {} 't', .ofLiteral {} 'h'] ++
    if caret then [.ofCheck .textStart] else []

/-- Parts in the order of the text, without a check of the start in front of them. -/
def afterCaret : List Part → List Part
  | ⟨.check .textStart, _, _⟩ :: parts => parts
  | parts => parts

/-- The alternative begins with the letters of the scheme, none of which can be left out. -/
def holdsScheme (alternative : List Part) : Bool :=
  match afterCaret alternative.reverse with
  | h :: t :: t' :: p :: _ =>
    h.isLetter 'h' && t.isLetter 't' && t'.isLetter 't' && p.pattern.leads 'p'
  | _ => false

/-- The text has alternatives of its own, all of which hold URLs to the scheme. -/
def confines (written : String) : Bool :=
  match alternatives? written with
  | .ok alternatives => alternatives.all holdsScheme
  | .error _ => false

/-- The ways in which a text that is accepted lets in a URL without the scheme. -/
inductive Escapes (written url : String) : Prop where
  /-- It closes the group around it. -/
  | group (unopened : Pattern.compile? written = .error .unopenedGroup) : Escapes written url
  /-- The URL is matched from its start on by an alternative behind the first. -/
  | alternative {first alternative : List Part} {later : List (List Part)} {j : Nat}
      (reads : alternatives? written = .ok (later ++ [first])) (among : alternative ∈ later)
      (spans : Spans url.toList.toArray (Part.sequence alternative).pattern 0 j) :
      Escapes written url
  /-- The last letter of the scheme is repeated and may be left out, and what stands behind it
  matches behind the other letters. -/
  | letter {more : List Part} {last : Part} {caret : Bool} {later : List (List Part)} {j : Nat}
      (reads : alternatives? written = .ok (later ++ [more ++ last :: schemeParts caret]))
      (repeated : (Part.ofLiteral {} 'p').Repeats last)
      (optional : last.pattern.isNullable = true) (begins : "htt".toList <+: url.toList)
      (spans : Spans url.toList.toArray (Part.sequence more).pattern 3 j) : Escapes written url

section Reading

/-- A letter of the scheme is read as a part of its own. -/
theorem readNext_letter {c : Char} (hc : c ∈ "http".toList) (cs : List Char) :
    readNext {} (c :: cs) = .ok (.piece {} (.part (.ofLiteral {} c)), cs) := by
  have hletters : c = 'h' ∨ c = 't' ∨ c = 'p' := by simpa using hc
  rcases hletters with rfl | rfl | rfl
  · rfl
  · rfl
  · rfl

/-- Letters of the scheme are read one after the other. -/
theorem reads_letters {letters rest : List Char} {names : List (List Char)}
    {done : List (List Part)} {parts : List Part} {s : Reader}
    (hletters : letters ⊆ "http".toList) (h : Reads ⟨letters ++ rest, {}, names, done, parts⟩ s) :
    Reads ⟨rest, {}, names, done, (letters.map (Part.ofLiteral {})).reverse ++ parts⟩ s := by
  induction letters generalizing parts with
  | nil => exact h
  | cons c letters ih =>
    have hnext := readNext_letter (hletters List.mem_cons_self) (letters ++ rest)
    have hbehind := (reads_piece_iff (r := ⟨c :: (letters ++ rest), {}, names, done, parts⟩)
      hnext rfl).mp h
    have hrest := ih (fun d hd => hletters (List.mem_cons_of_mem c hd)) hbehind
    rw [List.map_cons, List.reverse_cons, List.append_assoc]
    exact hrest

/-- A text that begins with the scheme has the letters before the rest, and a caret in
front of them or not. -/
theorem exists_rest {written : List Char} (h : startsWithScheme written = true) :
    ∃ (caret : Bool) (rest : List Char),
      written = (if caret then ['^'] else []) ++ ("http".toList ++ rest) := by
  unfold startsWithScheme at h
  dsimp only at h
  split at h
  next body =>
    obtain ⟨rest, hrest⟩ := List.isPrefixOf_iff_prefix.mp h
    exact ⟨true, rest, by rw [← hrest]; rfl⟩
  next body _ =>
    obtain ⟨rest, hrest⟩ := List.isPrefixOf_iff_prefix.mp h
    exact ⟨false, rest, by rw [← hrest]; rfl⟩

/-- The first alternative of such a text begins with the letters of the scheme. Only the last
of them may be repeated. -/
theorem exists_first {written : String} {first : List Part} {later : List (List Part)}
    (hscheme : startsWithScheme written.toList = true)
    (hread : alternatives? written = .ok (later ++ [first])) :
    ∃ more last caret, (Part.ofLiteral {} 'p').Repeats last ∧
      first = more ++ last :: schemeParts caret := by
  obtain ⟨caret, rest, hwritten⟩ := exists_rest hscheme
  obtain ⟨s, hs, -, hdone⟩ := alternatives?_eq_ok.mp hread
  have hbegun : Reads ⟨rest, {}, [], [], .ofLiteral {} 'p' :: schemeParts caret⟩ s := by
    rw [hwritten] at hs
    cases caret with
    | false => exact reads_letters (List.Subset.refl _) hs
    | true =>
      have hbehind := (reads_piece_iff (r := .begin ('^' :: ("http".toList ++ rest)) {} [])
        (readNext_caret _) rfl).mp hs
      exact reads_letters (List.Subset.refl _) hbehind
  obtain ⟨others, more, last, hrepeats, hbegins⟩ := hbegun.begins rfl
  have hsame : later ++ [first] = others ++ [more ++ last :: schemeParts caret] := by
    rw [← hdone, hbegins]
  obtain ⟨-, hfirst⟩ := List.append_inj' hsame rfl
  exact ⟨more, last, caret, hrepeats, List.singleton_inj.mp hfirst⟩

end Reading

section Matching

variable {cs : List Char} {i j : Nat}

/-- Parts in the order of the text match one after the other. -/
theorem spans_reverse_cons {part : Part} {parts : List Part} {text : Array Char} :
    Spans text (Part.sequence (part :: parts).reverse).pattern i j ↔
      ∃ k, Spans text part.pattern i k ∧ Spans text (Part.sequence parts.reverse).pattern k j := by
  rw [List.reverse_cons, spans_sequence_concat]

/-- Characters stand at a place in a text if the first does, and the others behind it. -/
theorem cons_prefix_drop {c : Char} {letters : List Char} :
    c :: letters <+: cs.drop i ↔ cs[i]? = some c ∧ letters <+: cs.drop (i + 1) := by
  rcases Nat.lt_or_ge i cs.length with hlt | hge
  · rw [List.drop_eq_getElem_cons hlt, List.cons_prefix_cons, List.getElem?_eq_getElem hlt,
      Option.some.injEq, eq_comm]
  · rw [List.drop_eq_nil_of_le hge, List.getElem?_eq_none hge]
    simp

/-- A text begins with the scheme if it begins with all letters but the last, and has that
one behind them. -/
theorem scheme_prefix_iff :
    "http".toList <+: cs ↔ "htt".toList <+: cs ∧ cs[3]? = some 'p' := by
  have hfour : "http".toList <+: cs.drop 0 ↔ "htt".toList <+: cs.drop 0 ∧ cs[3]? = some 'p' := by
    have hfull : "http".toList = ['h', 't', 't', 'p'] := rfl
    have hpart : "htt".toList = ['h', 't', 't'] := rfl
    simp only [hfull, hpart, cons_prefix_drop, List.nil_prefix, and_true, and_assoc]
  exact hfour

/-- Parts for letters match where these stand, and what is behind the parts matches behind
the letters. -/
theorem spans_letters_iff {letters : List Char} {front parts : List Part}
    (h : List.Forall₂ (fun c part => Part.isLetter c part = true) letters front) :
    Spans cs.toArray (Part.sequence (front ++ parts).reverse).pattern i j ↔
      letters <+: cs.drop i ∧
        Spans cs.toArray (Part.sequence parts.reverse).pattern (i + letters.length) j := by
  induction h generalizing i with
  | nil => simp
  | @cons c part letters front hletter _ ih =>
    rw [List.cons_append, spans_reverse_cons, cons_prefix_drop, List.length_cons]
    simp only [spans_of_isLetter hletter, List.getElem?_toArray]
    constructor
    · rintro ⟨k, ⟨hc, rfl⟩, hbehind⟩
      obtain ⟨hlater, hparts⟩ := ih.mp hbehind
      rw [Nat.add_right_comm, Nat.add_assoc] at hparts
      exact ⟨⟨hc, hlater⟩, hparts⟩
    · rintro ⟨⟨hc, hlater⟩, hparts⟩
      refine ⟨i + 1, ⟨hc, rfl⟩, ih.mpr ⟨hlater, ?_⟩⟩
      rw [Nat.add_right_comm, Nat.add_assoc]
      exact hparts

/-- From the start on, parts match behind a caret as they match without it. -/
theorem spans_afterCaret_iff {parts : List Part} {text : Array Char} :
    Spans text (Part.sequence (afterCaret parts).reverse).pattern 0 j ↔
      Spans text (Part.sequence parts.reverse).pattern 0 j := by
  unfold afterCaret
  split
  next depth repeatable parts =>
    rw [spans_reverse_cons]
    constructor
    · intro h
      exact ⟨0, ⟨(textStart_holds_iff (Nat.zero_le _)).mpr rfl, rfl⟩, h⟩
    · rintro ⟨k, ⟨-, rfl⟩, h⟩
      exact h
  next => rfl

/-- An alternative that holds to the scheme matches no other URLs from their start on. -/
theorem hasScheme_of_holdsScheme {alternative : List Part} {url : String}
    (h : holdsScheme alternative = true)
    (hspans : Spans url.toList.toArray (Part.sequence alternative).pattern 0 j) :
    Url.HasScheme url := by
  rw [← List.reverse_reverse alternative, ← spans_afterCaret_iff] at hspans
  unfold holdsScheme at h
  split at h
  next ph pt pt' pp parts hparts =>
    simp only [Bool.and_eq_true] at h
    obtain ⟨⟨⟨hh, ht⟩, ht'⟩, hp⟩ := h
    have hletters : List.Forall₂ (fun c part => Part.isLetter c part = true)
        "htt".toList [ph, pt, pt'] := .cons hh (.cons ht (.cons ht' .nil))
    have hsplit : ph :: pt :: pt' :: pp :: parts = [ph, pt, pt'] ++ pp :: parts := rfl
    rw [hparts, hsplit, spans_letters_iff hletters, spans_reverse_cons] at hspans
    obtain ⟨hbegins, k, hlast, -⟩ := hspans
    have hplace := getElem?_of_leads hp hlast
    rw [List.getElem?_toArray] at hplace
    exact scheme_prefix_iff.mpr ⟨hbegins, hplace⟩
  next => cases h

/-- An alternative that begins with the letters of the scheme, of which the last may be
repeated, matches the others first. -/
theorem spans_scheme_iff {more : List Part} {last : Part} {caret : Bool} :
    Spans cs.toArray (Part.sequence (more ++ last :: schemeParts caret)).pattern 0 j ↔
      "htt".toList <+: cs ∧ ∃ k, Spans cs.toArray last.pattern 3 k ∧
        Spans cs.toArray (Part.sequence more).pattern k j := by
  have hletters : List.Forall₂ (fun c part => Part.isLetter c part = true)
      "htt".toList [.ofLiteral {} 'h', .ofLiteral {} 't', .ofLiteral {} 't'] :=
    .cons (isLetter_ofLiteral _) (.cons (isLetter_ofLiteral _) (.cons (isLetter_ofLiteral _) .nil))
  have hafter : afterCaret (more ++ last :: schemeParts caret).reverse =
      [.ofLiteral {} 'h', .ofLiteral {} 't', .ofLiteral {} 't'] ++ last :: more.reverse := by
    cases caret <;> simp [schemeParts] <;> rfl
  rw [← List.reverse_reverse (more ++ last :: schemeParts caret), ← spans_afterCaret_iff, hafter,
    spans_letters_iff hletters, spans_reverse_cons, List.reverse_reverse]
  exact Iff.rfl

end Matching

section Escaping

variable {service written url : String} {p : UrlPattern}

/-- A text that opens every group it closes matches a URL, once it is accepted, where one of
its alternatives does from the start on. -/
theorem isMatch_iff_alternative (hopened : Pattern.compile? written ≠ .error .unopenedGroup)
    (h : compile? service written = .ok p) :
    ∃ first later, alternatives? written = .ok (later ++ [first]) ∧
      ∀ url, p.pattern.isMatch url = true ↔ ∃ alternative ∈ later ++ [first], ∃ j,
        Spans url.toList.toArray (Part.sequence alternative).pattern 0 j := by
  obtain ⟨-, hanchored, -⟩ := compile?_eq_ok.mp h
  obtain ⟨pattern, hpattern, hmatches⟩ :=
    AnchoredPattern.exists_spans_of_compile? hopened hanchored
  obtain ⟨alternatives, halternatives, hfits⟩ := Pattern.compile?_eq_ok.mp hpattern
  obtain ⟨-, rfl⟩ := Part.compile?_eq_ok.mp hfits
  obtain ⟨later, first, rfl⟩ := exists_first_alternative halternatives
  refine ⟨first, later, halternatives, fun url => ?_⟩
  rw [hmatches]
  simp only [spans_ofAlternatives_iff (List.append_ne_nil_of_right_ne_nil later
    (List.cons_ne_nil first []))]
  constructor
  · rintro ⟨j, alternative, hmem, hspans⟩
    exact ⟨alternative, hmem, j, hspans⟩
  · rintro ⟨alternative, hmem, j, hspans⟩
    exact ⟨j, alternative, hmem, hspans⟩

/-- Such a text lets in a URL without the scheme exactly in the ways that there are. -/
theorem isMatch_iff_escapes (hopened : Pattern.compile? written ≠ .error .unopenedGroup)
    (h : compile? service written = .ok p) (hother : ¬ Url.HasScheme url) :
    p.pattern.isMatch url = true ↔ Escapes written url := by
  obtain ⟨first, later, hread, hmatches⟩ := isMatch_iff_alternative hopened h
  obtain ⟨more, last, caret, hrepeats, rfl⟩ := exists_first (compile?_eq_ok.mp h).1 hread
  rw [hmatches]
  constructor
  · rintro ⟨alternative, hmem, j, hspans⟩
    rcases List.mem_append.mp hmem with hlater | hfirst
    · exact .alternative hread hlater hspans
    · obtain rfl := List.mem_singleton.mp hfirst
      obtain ⟨hbegins, k, hlast, hmore⟩ := spans_scheme_iff.mp hspans
      -- Either the last letter stands in the URL, or nothing stands for it.
      rcases hrepeats.spans (isLetter_ofLiteral _) hlast with hletter | ⟨hnullable, rfl⟩
      · rw [List.getElem?_toArray] at hletter
        exact absurd (scheme_prefix_iff.mpr ⟨hbegins, hletter⟩) hother
      · exact .letter hread hrepeats hnullable hbegins hmore
  · intro hescapes
    cases hescapes with
    | group unopened => exact absurd unopened hopened
    | @alternative first' alternative later' j reads among spans =>
      have hmem : alternative ∈ later' ++ [first'] := List.mem_append_left _ among
      rw [Except.ok.inj (reads.symm.trans hread)] at hmem
      exact ⟨alternative, hmem, j, spans⟩
    | @letter more' last' caret' later' j reads repeated optional begins spans =>
      have hmem : more' ++ last' :: schemeParts caret' ∈
          later' ++ [more' ++ last' :: schemeParts caret'] :=
        List.mem_append_right _ List.mem_cons_self
      rw [Except.ok.inj (reads.symm.trans hread)] at hmem
      have hlast : Spans url.toList.toArray last'.pattern 3 3 :=
        repeated.spans_self (isLetter_ofLiteral _) optional
      exact ⟨_, hmem, j, spans_scheme_iff.mpr ⟨begins, 3, hlast, spans⟩⟩

/-- A text that confines URLs to the scheme opens every group it closes. -/
theorem confines_iff : confines written = true ↔
    ∃ alternatives, alternatives? written = .ok alternatives ∧
      ∀ alternative ∈ alternatives, holdsScheme alternative = true := by
  unfold confines
  cases alternatives? written with
  | error fault => simp
  | ok alternatives => simp

/-- Once it is accepted, a text that confines URLs to the scheme matches no others. -/
theorem hasScheme_of_confines (hconfines : confines written = true)
    (h : compile? service written = .ok p) (hmatch : p.pattern.isMatch url = true) :
    Url.HasScheme url := by
  obtain ⟨alternatives, hread, hhold⟩ := confines_iff.mp hconfines
  have hopened : Pattern.compile? written ≠ .error .unopenedGroup := by
    intro hunopened
    rw [compile?_eq_unopened, hread] at hunopened
    cases hunopened
  obtain ⟨first, later, hread', hmatches⟩ := isMatch_iff_alternative hopened h
  obtain rfl := Except.ok.inj (hread.symm.trans hread')
  obtain ⟨alternative, hmem, j, hspans⟩ := (hmatches url).mp hmatch
  exact hasScheme_of_holdsScheme (hhold alternative hmem) hspans

end Escaping

end UrlPattern

namespace UrlIndex

/-- The index that some registrations make one after the other, each of a text for a
service, and all successful. -/
inductive Registered : List (String × String) → UrlIndex → Prop where
  | none : Registered [] {}
  | next {registered : List (String × String)} {index after : UrlIndex} {service written : String} :
      Registered registered index → index.register service written = .ok after →
      Registered (registered ++ [(service, written)]) after

variable {registered : List (String × String)} {index : UrlIndex} {service url : String}

/-- Every pattern of the index is what one of the texts is compiled to. -/
theorem Registered.exists_written (h : Registered registered index) {p : UrlPattern}
    (hp : p ∈ index.patterns) :
    ∃ written, (p.service, written) ∈ registered ∧
      UrlPattern.compile? p.service written = .ok p := by
  induction h with
  | none => cases hp
  | @next registered index after service written hbefore hregister ih =>
    obtain ⟨q, hq, rfl⟩ := map_eq_ok.mp hregister
    rcases List.mem_append.mp hp with hold | hnew
    · obtain ⟨earlier, hmem, hcompile⟩ := ih hold
      exact ⟨earlier, List.mem_append_left _ hmem, hcompile⟩
    · obtain rfl := List.mem_singleton.mp hnew
      obtain ⟨-, -, rfl⟩ := UrlPattern.compile?_eq_ok.mp hq
      exact ⟨written, List.mem_append_right _ List.mem_cons_self, hq⟩

/-- An index extended by the patterns of a service is what their registration one after the
other makes. -/
theorem Registered.extend (h : Registered registered index) {written : List String}
    {patterns : List UrlPattern}
    (hcompile : written.mapM (UrlPattern.compile? service) = .ok patterns) :
    Registered (registered ++ written.map fun text => (service, text)) (index.extend patterns) := by
  induction written generalizing registered index patterns with
  | nil =>
    obtain rfl := Except.ok.inj hcompile
    simpa [UrlIndex.extend] using h
  | cons text written ih =>
    rw [List.mapM_cons] at hcompile
    obtain ⟨p, hp, hrest⟩ := bind_eq_ok.mp hcompile
    obtain ⟨later, hlater, hpatterns⟩ := bind_eq_ok.mp hrest
    obtain rfl := Except.ok.inj hpatterns
    have hone : index.register service text = .ok (index.extend [p]) :=
      map_eq_ok.mpr ⟨p, hp, rfl⟩
    simpa [UrlIndex.extend] using ih (h.next hone) hlater

/-- The service of a URL has a pattern that matches it. -/
theorem exists_match (h : index.classify? url = some service) :
    ∃ p ∈ index.patterns, p.service = service ∧ p.pattern.isMatch url = true := by
  obtain ⟨p, hfind, hservice⟩ := Option.map_eq_some_iff.mp h
  have hmatch : p.pattern.isMatch url = true := by simpa using List.find?_some hfind
  exact ⟨p, List.mem_of_find?_eq_some hfind, hservice, hmatch⟩

/-- What the scheme of registered texts says of URLs. -/
structure SchemeLaws (registered : List (String × String)) (index : UrlIndex) : Prop where
  /-- A URL without the scheme belongs to a service only if a text of that service lets it in,
  in one of three ways. -/
  escapes : ∀ url service, index.classify? url = some service → ¬ Url.HasScheme url →
    ∃ written, (service, written) ∈ registered ∧ UrlPattern.Escapes written url
  /-- If all alternatives of all texts begin with the letters of the scheme, none of them
  optional, every URL that belongs to a service has the scheme. -/
  confined : (∀ service written, (service, written) ∈ registered →
      UrlPattern.confines written = true) →
    ∀ url service, index.classify? url = some service → Url.HasScheme url
  /-- Each of the ways is one: a text that is a pattern on its own and is accepted matches
  every URL without the scheme that it lets in, and no others. -/
  exact : ∀ {service written url : String} {p : UrlPattern},
    Pattern.compile? written ≠ .error .unopenedGroup →
      UrlPattern.compile? service written = .ok p → ¬ Url.HasScheme url →
        (p.pattern.isMatch url = true ↔ UrlPattern.Escapes written url)

/-- **The scheme of patterns.** What a text begins with holds URLs to the scheme, unless the
text closes the group around it, has alternatives behind the first, or makes the last letter
of the scheme optional. -/
theorem schemeLaws (h : Registered registered index) : SchemeLaws registered index where
  escapes := by
    intro url service hclassify hother
    obtain ⟨p, hp, rfl, hmatch⟩ := exists_match hclassify
    obtain ⟨written, hmem, hcompile⟩ := h.exists_written hp
    refine ⟨written, hmem, ?_⟩
    by_cases hopened : Pattern.compile? written = .error .unopenedGroup
    · exact .group hopened
    · exact (UrlPattern.isMatch_iff_escapes hopened hcompile hother).mp hmatch
  confined := by
    intro hconfines url service hclassify
    obtain ⟨p, hp, rfl, hmatch⟩ := exists_match hclassify
    obtain ⟨written, hmem, hcompile⟩ := h.exists_written hp
    exact UrlPattern.hasScheme_of_confines (hconfines _ _ hmem) hcompile hmatch
  exact := UrlPattern.isMatch_iff_escapes

/-- The laws of an index of one service, whose pattern confines URLs to the scheme. -/
theorem schemeLaws_service :
    ∃ index, Registered [("svc1", AnchoredPattern.servicePattern)] index ∧
      SchemeLaws [("svc1", AnchoredPattern.servicePattern)] index ∧
      UrlPattern.confines AnchoredPattern.servicePattern = true ∧
      index.classify? "http://svc1.example.com/ping" = some "svc1" := by
  have hvalue : (register {} "svc1" AnchoredPattern.servicePattern).toOption.map
      (fun index => index.classify? "http://svc1.example.com/ping") = some (some "svc1") := by
    decide +kernel
  obtain ⟨index, hindex, hclassify⟩ := Option.map_eq_some_iff.mp hvalue
  have hregistered : Registered [("svc1", AnchoredPattern.servicePattern)] index :=
    .next .none (toOption_eq_some.mp hindex)
  exact ⟨index, hregistered, schemeLaws hregistered, by decide +kernel, hclassify⟩

/-- A pattern with a second alternative for another scheme. -/
def twoSchemes : String :=
  "https?://a\\.example\\.com|ftp://b\\.example\\.com"

/-- The pattern is accepted, and a URL of that scheme belongs to its service. -/
theorem twoSchemes_unconfined :
    ∃ index, Registered [("svc1", twoSchemes)] index ∧
      index.classify? "ftp://b.example.com/x" = some "svc1" ∧
      ¬ Url.HasScheme "ftp://b.example.com/x" := by
  have hvalue : (register {} "svc1" twoSchemes).toOption.map
      (fun index => index.classify? "ftp://b.example.com/x") = some (some "svc1") := by
    decide +kernel
  obtain ⟨index, hindex, hclassify⟩ := Option.map_eq_some_iff.mp hvalue
  exact ⟨index, .next .none (toOption_eq_some.mp hindex), hclassify, by decide⟩

end UrlIndex

end CloudEmulator
