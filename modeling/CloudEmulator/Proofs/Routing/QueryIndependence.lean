import CloudEmulator.Proofs.Pattern.Locality
import CloudEmulator.Proofs.Routing.Anchoring
import CloudEmulator.Routing.RouteTable

/-!
# Queries and routing

Route tables look at the stem of a URL, which its query and fragment are no part of. The
index looks at all of the URL: there a query makes a difference to patterns that match a
question mark or a number sign, or that tell them from the end of the URL.
-/

namespace CloudEmulator

open Pattern Fallible

namespace Url

/-- The characters that end the stem of a URL. -/
def stemMarks : List Char :=
  ['?', '#']

/-- A URL begins with its stem, and one of those characters stands behind it, if any. -/
theorem stem_append (url : String) :
    ∃ rest, url.toList = (stem url).toList ++ rest ∧ ∀ c, rest[0]? = some c → c ∈ stemMarks := by
  let inside : Char → Bool := fun c => !(c == '?' || c == '#')
  have hchars : (stem url).toList = url.toList.takeWhile inside := String.toList_ofList
  refine ⟨url.toList.dropWhile inside, ?_, ?_⟩
  · rw [hchars, List.takeWhile_append_dropWhile]
  · intro c hc
    have hmark := List.head?_dropWhile_not inside url.toList
    rw [List.head?_eq_getElem?, hc] at hmark
    simpa [inside, stemMarks, or_iff_not_imp_left] using hmark

/-- The stem is no longer than the URL. -/
theorem length_stem_le (url : String) : (stem url).toList.length ≤ url.toList.length := by
  obtain ⟨rest, hurl, -⟩ := stem_append url
  rw [hurl, List.length_append]
  exact Nat.le_add_right _ _

/-- URLs with the same stem part where it ends. -/
theorem partAt_of_stem {url other : String} (h : stem url = stem other) :
    PartAt stemMarks (stem url).toList.length url.toList.toArray other.toList.toArray := by
  have hbehind {stem rest : List Char} {c : Char} (hrest : ∀ c, rest[0]? = some c → c ∈ stemMarks)
      (hc : (stem ++ rest).toArray[stem.length]? = some c) : c ∈ stemMarks := by
    rw [List.getElem?_toArray, List.getElem?_append_right (Nat.le_refl _), Nat.sub_self] at hc
    exact hrest c hc
  obtain ⟨rest, hurl, hrest⟩ := stem_append url
  obtain ⟨rest', hother, hrest'⟩ := stem_append other
  rw [← h] at hother
  rw [hurl, hother]
  constructor
  · intro k hk
    rw [List.getElem?_toArray, List.getElem?_toArray, List.getElem?_append_left hk,
      List.getElem?_append_left hk]
  · exact fun c => hbehind hrest
  · exact fun c => hbehind hrest'

end Url

namespace UrlPattern

/-- The pattern is held to the start of URLs, and does not look beyond their stems. -/
def readsStem (p : UrlPattern) : Bool :=
  p.pattern.pattern.isAnchored && p.pattern.pattern.avoids Url.stemMarks

/-- All matches of the pattern in the URL end with the stem, or behind it. -/
def Overruns (p : UrlPattern) (url : String) : Prop :=
  ∀ i j, Spans url.toList.toArray p.pattern.pattern i j → (Url.stem url).toList.length ≤ j

/-- A pattern that reads the stem matches all URLs with one stem, or none. -/
theorem isMatch_eq_of_readsStem {p : UrlPattern} {url other : String}
    (hreads : p.readsStem = true) (h : Url.stem url = Url.stem other) :
    p.pattern.isMatch url = p.pattern.isMatch other := by
  obtain ⟨hanchored, havoids⟩ := Bool.and_eq_true_iff.mp hreads
  have hother {url other : String} (hstem : Url.stem url = Url.stem other)
      (hmatch : p.pattern.isMatch url = true) : p.pattern.isMatch other = true := by
    obtain ⟨j, hspans⟩ := (matchesIn_iff_of_isAnchored hanchored).mp hmatch
    have hpart := Url.partAt_of_stem hstem
    have hspansOther := (spans_of_avoids hpart havoids hspans (Nat.zero_le _)).2
    exact (matchesIn_iff_of_isAnchored hanchored).mpr ⟨j, hspansOther⟩
  rw [Bool.eq_iff_iff]
  constructor
  · exact hother h
  · exact hother h.symm

/-- A pattern that matches one URL but not another with the same stem has no match in either
that ends inside of the stem: it would be a match in both. -/
theorem overruns_of_ne {p : UrlPattern} {url other : String}
    (hne : p.pattern.isMatch url ≠ p.pattern.isMatch other)
    (h : Url.stem url = Url.stem other) : p.Overruns url := by
  intro i j hspans
  by_contra hinside
  have hend : j < (Url.stem url).toList.length := Nat.lt_of_not_le hinside
  have hstart : i ≤ j := le_of_spans hspans
  have hother := spans_of_same (Url.partAt_of_stem h).same hspans hend
  have hlength := Url.length_stem_le url
  have hlengthOther := Url.length_stem_le other
  rw [← h] at hlengthOther
  have hmatch : p.pattern.isMatch url = true :=
    matchesIn_iff.mpr ⟨i, by omega, j, hspans⟩
  have hmatchOther : p.pattern.isMatch other = true :=
    matchesIn_iff.mpr ⟨i, by omega, j, hother⟩
  exact hne (hmatch.trans hmatchOther.symm)

/-- A text that is a pattern of its own and avoids the marks reads the stem when it is
compiled for a service. -/
theorem readsStem_of_compile? {service written : String} {pattern : Pattern} {p : UrlPattern}
    (hpattern : Pattern.compile? written = .ok pattern)
    (havoids : pattern.avoids Url.stemMarks = true) (h : compile? service written = .ok p) :
    p.readsStem = true := by
  obtain ⟨-, hanchored, -⟩ := compile?_eq_ok.mp h
  obtain ⟨alternatives, halone, hfits⟩ := Pattern.compile?_eq_ok.mp hpattern
  obtain ⟨-, rfl⟩ := Part.compile?_eq_ok.mp hfits
  have hopened : alternatives? written ≠ .error .unopenedGroup := by
    rw [halone]
    nofun
  obtain ⟨alternatives', halone', -, -, hp⟩ :=
    (AnchoredPattern.compile?_eq_ok_iff hopened).mp hanchored
  obtain rfl := Except.ok.inj (halone.symm.trans halone')
  rw [readsStem, hp]
  simp only [AnchoredPattern.anchoredPart_pattern, isAnchored, avoids, Check.avoids, havoids,
    Bool.and_self]

end UrlPattern

namespace UrlIndex

/-- What the query and the fragment of a URL have to do with where it is routed. -/
structure QueryLaws (index : UrlIndex) : Prop where
  /-- Every route table finds the same entry for URLs with the same stem. -/
  tables : ∀ {α : Type} (table : RouteTable α) (method : String) {url other : String},
    Url.stem url = Url.stem other → table.find? method url = table.find? method other ∧
      table.findIdx? method url = table.findIdx? method other
  /-- An index of patterns that read the stem gives the same service for such URLs. -/
  stems : (∀ p ∈ index.patterns, p.readsStem = true) → ∀ {url other : String},
    Url.stem url = Url.stem other → index.classify? url = index.classify? other
  /-- Such a pattern is every text that matches no question mark and no number sign, and
  does not tell them from the end of a URL, if it is a pattern of its own. -/
  written : ∀ {service written : String} {pattern : Pattern} {p : UrlPattern},
    Pattern.compile? written = .ok pattern → pattern.avoids Url.stemMarks = true →
      UrlPattern.compile? service written = .ok p → p.readsStem = true
  /-- If any index gives different services for URLs with the same stem, a pattern of it
  matches one of them only, and has no match in either that ends inside of the stem. -/
  queries : ∀ {url other : String}, Url.stem url = Url.stem other →
    index.classify? url ≠ index.classify? other →
      ∃ p ∈ index.patterns, p.pattern.isMatch url ≠ p.pattern.isMatch other ∧
        p.Overruns url ∧ p.Overruns other

/-- Where all patterns match both URLs or neither, they have the same service. -/
theorem classify?_congr {index : UrlIndex} {url other : String}
    (h : ∀ p ∈ index.patterns, p.pattern.isMatch url = p.pattern.isMatch other) :
    index.classify? url = index.classify? other := by
  have hfind : index.patterns.find? (fun p => p.pattern.isMatch url) =
      index.patterns.find? fun p => p.pattern.isMatch other := by
    generalize index.patterns = patterns at h ⊢
    induction patterns with
    | nil => rfl
    | cons p patterns ih =>
      rw [List.find?_cons, List.find?_cons, h p List.mem_cons_self,
        ih fun q hq => h q (List.mem_cons_of_mem _ hq)]
  rw [classify?, classify?, hfind]

/-- **Queries.** No route table looks at the query or the fragment of a URL, and no index of
patterns that read the stem does. Where another index does, it is for a pattern that reads
on behind the stem. -/
theorem queryLaws (index : UrlIndex) : QueryLaws index where
  tables := by
    intro α table method url other h
    rw [RouteTable.find?, RouteTable.find?, RouteTable.findIdx?, RouteTable.findIdx?, h]
    exact ⟨rfl, rfl⟩
  stems := by
    intro hreads url other h
    exact classify?_congr fun p hp => UrlPattern.isMatch_eq_of_readsStem (hreads p hp) h
  written := UrlPattern.readsStem_of_compile?
  queries := by
    intro url other h hne
    by_contra hnone
    apply hne
    apply classify?_congr
    intro p hp
    by_contra hdiffers
    exact hnone ⟨p, hp, hdiffers, UrlPattern.overruns_of_ne hdiffers h,
      UrlPattern.overruns_of_ne (Ne.symm hdiffers) h.symm⟩

/-- The pattern of one host reads the stem. -/
example : (UrlPattern.compile? "svc1" AnchoredPattern.servicePattern).toOption.map
    UrlPattern.readsStem = some true := by
  decide +kernel

/-- A pattern for all hosts of a domain. -/
def domainPattern : String :=
  "https?://.*\\.amazonaws\\.com"

/-- A URL on another host that has the end of such a host in its query. -/
def foreignUrl : String :=
  "https://evil.example.com/?next=.amazonaws.com"

/-- The pattern of a domain is accepted for a service, which then gets URLs on other hosts
for what is in their queries. -/
theorem domainPattern_reads_query :
    ∃ index, register {} "svc1" domainPattern = .ok index ∧
      Url.stem foreignUrl = Url.stem "https://evil.example.com/" ∧
      index.classify? foreignUrl = some "svc1" ∧
      index.classify? "https://evil.example.com/" = none := by
  have hvalues : (register {} "svc1" domainPattern).toOption.map (fun index =>
      (index.classify? foreignUrl, index.classify? "https://evil.example.com/")) =
      some (some "svc1", none) := by decide +kernel
  obtain ⟨index, hindex, hclassify⟩ := Option.map_eq_some_iff.mp hvalues
  obtain ⟨hforeign, hbare⟩ := Prod.mk.inj hclassify
  exact ⟨index, toOption_eq_some.mp hindex, by decide +kernel, hforeign, hbare⟩

end UrlIndex

end CloudEmulator
