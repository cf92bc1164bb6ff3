import CloudEmulator.Proofs.Emulator.Histories
import CloudEmulator.Proofs.Routing.FirstMatch

/-!
# Which service a URL belongs to

Whatever is done with an emulator, a URL that belongs to a service belongs to it ever after.
Since the management service is registered first, the URLs of its host belong to it in every
emulator.
-/

namespace CloudEmulator

variable {σ : Type}

namespace Management

open Pattern

/-- The URL begins with a scheme and the host of the management service. -/
def HasOrigin (url : String) : Prop :=
  "http://motoapi.amazonaws.com".toList <+: url.toList ∨
    "https://motoapi.amazonaws.com".toList <+: url.toList

instance (url : String) : Decidable (HasOrigin url) :=
  inferInstanceAs (Decidable (_ ∨ _))

/-- The parts for some letters, in the order of the text. -/
def letterParts (letters : String) : List Part :=
  letters.toList.map (Part.ofLiteral {})

/-- The parts of the base behind its caret. The scheme may end with one more letter. -/
def originParts : List Part :=
  letterParts "http" ++
    (Part.ofLiteral {} 's').times ⟨0, some 1⟩ :: letterParts "://motoapi.amazonaws.com"

/-- The base has one alternative, which begins with a caret. -/
theorem alternatives_urlBase :
    alternatives? urlBase = .ok [(Part.ofCheck .textStart :: originParts).reverse] := rfl

/-- A text begins with two others one behind the other if it begins with the first, and its
rest with the second. -/
theorem append_prefix_iff {front back cs : List Char} :
    front ++ back <+: cs ↔ front <+: cs ∧ back <+: cs.drop front.length := by
  constructor
  · rintro ⟨rest, rfl⟩
    rw [List.append_assoc, List.drop_left]
    exact ⟨List.prefix_append _ _, List.prefix_append _ _⟩
  · rintro ⟨⟨rest, rfl⟩, hback⟩
    rw [List.drop_left] at hback
    exact (List.prefix_append_right_inj front).mpr hback

/-- A letter that may be left out matches itself or nothing. -/
theorem spans_optional_iff {c : Char} {cs : List Char} {i k : Nat} :
    Spans cs.toArray ((Part.ofLiteral {} c).times ⟨0, some 1⟩).pattern i k ↔
      k = i ∨ cs[i]? = some c ∧ k = i + 1 := by
  have hletter {i k : Nat} : Spans cs.toArray (Part.ofLiteral {} c).pattern i k ↔
      cs[i]? = some c ∧ k = i + 1 := by
    rw [spans_of_isLetter (isLetter_ofLiteral c), List.getElem?_toArray]
  rw [Part.times, spans_repeated_iff]
  constructor
  · rintro ⟨_, rfl, count, hcount, hchain⟩
    have hfew : count = 0 ∨ count = 1 := by
      rw [Option.getD_some] at hcount
      omega
    rcases hfew with rfl | rfl
    · exact .inl hchain.symm
    · obtain ⟨_, hone, rfl⟩ := hchain
      exact .inr (hletter.mp hone)
  · rintro (rfl | hone)
    · exact ⟨k, rfl, 0, Nat.zero_le _, rfl⟩
    · exact ⟨i, rfl, 1, Nat.le_refl _, k, hletter.mpr hone, rfl⟩

/-- Parts for letters match where the letters stand. -/
theorem spans_letterParts_iff {letters : String} {parts : List Part} {cs : List Char}
    {i j : Nat} :
    Spans cs.toArray (Part.sequence (letterParts letters ++ parts).reverse).pattern i j ↔
      letters.toList <+: cs.drop i ∧
        Spans cs.toArray (Part.sequence parts.reverse).pattern (i + letters.toList.length) j := by
  refine UrlPattern.spans_letters_iff ?_
  rw [letterParts, List.forall₂_map_right_iff]
  exact List.forall₂_same.mpr fun c _ => isLetter_ofLiteral c

/-- The parts of the base match from the start of the URLs of the host on. -/
theorem exists_spans_originParts_iff {url : String} :
    (∃ j, Spans url.toList.toArray (Part.sequence originParts.reverse).pattern 0 j) ↔
      HasOrigin url := by
  have hhost {i j : Nat} : Spans url.toList.toArray
      (Part.sequence (letterParts "://motoapi.amazonaws.com").reverse).pattern i j ↔
      "://motoapi.amazonaws.com".toList <+: url.toList.drop i ∧
        i + "://motoapi.amazonaws.com".toList.length = j := by
    rw [← List.append_nil (letterParts _), spans_letterParts_iff]
    exact Iff.rfl
  have hplain : "http://motoapi.amazonaws.com".toList =
      "http".toList ++ "://motoapi.amazonaws.com".toList := rfl
  have hsecure : "https://motoapi.amazonaws.com".toList =
      "http".toList ++ 's' :: "://motoapi.amazonaws.com".toList := rfl
  rw [HasOrigin, hplain, hsecure, append_prefix_iff, append_prefix_iff,
    UrlPattern.cons_prefix_drop]
  simp only [originParts, spans_letterParts_iff, UrlPattern.spans_reverse_cons,
    spans_optional_iff, hhost, List.drop_zero, Nat.zero_add]
  constructor
  · rintro ⟨_, hscheme, k, rfl | ⟨hletter, rfl⟩, hrest, rfl⟩
    · exact .inl ⟨hscheme, hrest⟩
    · exact .inr ⟨hscheme, hletter, hrest⟩
  · rintro (⟨hscheme, hrest⟩ | ⟨hscheme, hletter, hrest⟩)
    · exact ⟨_, hscheme, _, .inl rfl, hrest, rfl⟩
    · exact ⟨_, hscheme, _, .inr ⟨hletter, rfl⟩, hrest, rfl⟩

/-- The base of the management service matches the URLs of its host, and no others. -/
theorem isMatch_iff_hasOrigin {p : UrlPattern} (h : UrlPattern.compile? service urlBase = .ok p)
    (url : String) : p.pattern.isMatch url = true ↔ HasOrigin url := by
  have hopened : Pattern.compile? urlBase ≠ .error .unopenedGroup := by
    rw [Ne, compile?_eq_unopened, alternatives_urlBase]
    nofun
  have hcaret (j : Nat) : Spans url.toList.toArray (Part.sequence originParts.reverse).pattern 0 j ↔
      Spans url.toList.toArray
        (Part.sequence (Part.ofCheck .textStart :: originParts).reverse).pattern 0 j := by
    have hparts : originParts =
        UrlPattern.afterCaret (Part.ofCheck .textStart :: originParts) := rfl
    nth_rewrite 1 [hparts]
    exact UrlPattern.spans_afterCaret_iff
  obtain ⟨first, later, hread, hmatches⟩ := UrlPattern.isMatch_iff_alternative hopened h
  rw [hmatches, ← Except.ok.inj (alternatives_urlBase.symm.trans hread)]
  simp only [List.mem_singleton, exists_eq_left, ← hcaret]
  exact exists_spans_originParts_iff

end Management

namespace Emulator

variable {e next : Emulator σ}

/-- The first pattern of the index is that of the management service. -/
def Headed (e : Emulator σ) : Prop :=
  ∃ p rest, e.index.patterns = p :: rest ∧
    UrlPattern.compile? Management.service Management.urlBase = .ok p

/-- A new emulator has the pattern of the management service. -/
theorem headed_new [Inhabited σ] (config : EmulatorConfig) : (new config : Emulator σ).Headed := by
  obtain ⟨p, hcompile, -⟩ := Management.exists_urlPattern
  rw [new_of_compile hcompile config]
  exact ⟨p, [], rfl, hcompile⟩

/-- What is first in the index stays so. -/
theorem Headed.run (h : e.Headed) (hconsistent : e.registry.Consistent)
    (ops : List (Operation σ)) : (e.run ops).Headed := by
  obtain ⟨p, rest, hpatterns, hcompile⟩ := h
  obtain ⟨patterns, hindex⟩ := exists_index_run hconsistent ops
  refine ⟨p, rest ++ patterns, ?_, hcompile⟩
  rw [hindex, UrlIndex.extend, hpatterns, List.cons_append]

/-- Where the first pattern is that of the management service, the URLs of its host belong
to it. -/
theorem Headed.classify?_eq (h : e.Headed) {url : String} (horigin : Management.HasOrigin url) :
    e.index.classify? url = some Management.service := by
  obtain ⟨p, rest, hpatterns, hcompile⟩ := h
  obtain ⟨-, -, hservice⟩ := UrlPattern.compile?_eq_ok.mp hcompile
  have hmatch := (Management.isMatch_iff_hasOrigin hcompile url).mpr horigin
  rw [UrlIndex.classify?_of_first hpatterns hmatch, hservice]

/-- A URL that belongs to a service belongs to it after every run. -/
theorem classify?_run (h : e.registry.Consistent) {url service : String}
    (hclassify : e.index.classify? url = some service) (ops : List (Operation σ)) :
    (e.run ops).index.classify? url = some service := by
  obtain ⟨patterns, hindex⟩ := exists_index_run h ops
  rw [hindex]
  exact UrlIndex.classify?_extend hclassify patterns

/-- A text that is in the index stays there. -/
theorem lists_run (h : e.registry.Consistent) {written : String}
    (hlists : e.index.Lists written) (ops : List (Operation σ)) :
    (e.run ops).index.Lists written := by
  obtain ⟨patterns, hindex⟩ := exists_index_run h ops
  rw [hindex]
  exact hlists.extend patterns

/-- A pattern that was registered leaves its text in the index. -/
theorem lists_registerPattern {service written : String} {index : UrlIndex}
    (h : e.index.register service written = .ok index) : index.Lists written := by
  obtain ⟨p, hcompile, rfl⟩ := Fallible.map_eq_ok.mp h
  exact UrlIndex.lists_of_mem (List.mem_append_right _ (List.mem_singleton_self p)) hcompile

/-- A service that was registered leaves its bases in the index. -/
theorem lists_registerService {d : ServiceDescriptor σ} (h : e.registerService d = .ok next)
    {base : String} (hbase : base ∈ d.urlBases) : next.index.Lists base := by
  obtain ⟨patterns, hcompiled, hnext⟩ := Fallible.bind_eq_ok.mp h
  obtain rfl := Except.ok.inj hnext
  obtain ⟨p, hp, hcompile⟩ := Fallible.exists_mem_of_mapM hcompiled hbase
  exact UrlIndex.lists_of_mem (List.mem_append_right _ hp) hcompile

/-- What holds of the services of URLs. -/
structure ClassificationLaws (e : Emulator σ) : Prop where
  /-- A URL that belongs to a service belongs to it after whatever is done. -/
  lasting : ∀ ops url service, e.index.classify? url = some service →
    (e.run ops).index.classify? url = some service
  /-- A text that was registered is in the index ever after. -/
  listed : ∀ service written index, e.index.register service written = .ok index →
    ∀ ops, (({ e with index } : Emulator σ).run ops).index.Lists written
  /-- So are the bases of a service that was registered. -/
  listed_bases : ∀ d next, e.registerService d = .ok next → ∀ base ∈ d.urlBases,
    ∀ ops, (next.run ops).index.Lists base
  /-- A text in the index is accepted again for every service, and changes the service of no
  URL. -/
  repeated : ∀ written, e.index.Lists written → ∀ service,
    ∃ index, e.index.register service written = .ok index ∧
      ∀ url, index.classify? url = e.index.classify? url
  /-- Among the bases of a service, a text can be left out that is in the index or stands among
  them before: URLs belong to the same services. -/
  repeated_base : ∀ d next front base later, e.registerService d = .ok next →
    d.urlBases = front ++ base :: later → e.index.Lists base ∨ base ∈ front →
    ∃ next', e.registerService { d with urlBases := front ++ later } = .ok next' ∧
      ∀ url, next.index.classify? url = next'.index.classify? url
  /-- The URLs that the base of the management service matches are those of its host, and they
  belong to it. -/
  management : ∃ p, UrlPattern.compile? Management.service Management.urlBase = .ok p ∧
    ∀ url, (p.pattern.isMatch url = true ↔ Management.HasOrigin url) ∧
      (p.pattern.isMatch url = true → e.index.classify? url = some Management.service)
  /-- The services of patterns are listed, and no others. -/
  services : ∀ service, service ∈ e.index.services ↔ ∃ p ∈ e.index.patterns, p.service = service
  /-- They are listed once each, in the order of their first patterns. -/
  ordered : e.index.services.Nodup ∧ e.index.services.Pairwise fun a b =>
    (e.index.patterns.map (·.service)).idxOf a < (e.index.patterns.map (·.service)).idxOf b

/-- Bases of a service that have been seen before can be left out when it is registered. -/
theorem exists_registerService_without {d : ServiceDescriptor σ} {front later : List String}
    {base : String} (hregister : e.registerService d = .ok next)
    (hbases : d.urlBases = front ++ base :: later)
    (hseen : e.index.Lists base ∨ base ∈ front) :
    ∃ next', e.registerService { d with urlBases := front ++ later } = .ok next' ∧
      ∀ url, next.index.classify? url = next'.index.classify? url := by
  obtain ⟨patterns, hcompiled, hnext⟩ := Fallible.bind_eq_ok.mp hregister
  obtain rfl := Except.ok.inj hnext
  rw [hbases] at hcompiled
  obtain ⟨others, hothers, hsame⟩ := UrlIndex.extend_mapM_without hseen hcompiled
  exact ⟨_, Fallible.bind_eq_ok.mpr ⟨others, hothers, rfl⟩, hsame⟩

/-- The services are listed in the order of their first patterns, which leaves no room for one
of them twice. -/
theorem services_ordered (index : UrlIndex) :
    index.services.Nodup ∧ index.services.Pairwise fun a b =>
      (index.patterns.map (·.service)).idxOf a < (index.patterns.map (·.service)).idxOf b := by
  have hordered := UrlIndex.distinct_ascending (index.patterns.map (·.service))
  refine ⟨hordered.imp ?_, hordered⟩
  rintro a b hlt rfl
  exact absurd hlt (Nat.lt_irrefl _)

/-- **Whose URLs are whose.** In every history of an emulator, URLs stay with their services,
texts that are registered twice decide nothing, and the management service keeps its host. -/
theorem classificationLaws [Inhabited σ] (config : EmulatorConfig) (ops : List (Operation σ)) :
    ClassificationLaws ((new config).run ops) := by
  have hconsistent := consistent_run (consistent_new (σ := σ) config) ops
  exact {
    lasting := fun later url service hclassify => classify?_run hconsistent hclassify later
    listed := fun service written index hregister later => by
      have hlists := lists_registerPattern hregister
      refine lists_run ?_ hlists later
      exact hconsistent
    listed_bases := fun d next hregister base hbase later =>
      lists_run (consistent_registerService hconsistent hregister)
        (lists_registerService hregister hbase) later
    repeated := fun written hlists service => hlists.register service
    repeated_base := fun d next front base later hregister hbases hseen =>
      exists_registerService_without hregister hbases hseen
    management := by
      have hheaded := (headed_new (σ := σ) config).run (consistent_new config) ops
      obtain ⟨p, hcompile, -⟩ := Management.exists_urlPattern
      refine ⟨p, hcompile, fun url => ⟨Management.isMatch_iff_hasOrigin hcompile url, ?_⟩⟩
      intro hmatch
      exact hheaded.classify?_eq ((Management.isMatch_iff_hasOrigin hcompile url).mp hmatch)
    services := fun service => by
      rw [UrlIndex.services, UrlIndex.mem_distinct, List.mem_map]
    ordered := services_ordered _ }

end Emulator

end CloudEmulator
