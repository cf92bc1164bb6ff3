import CloudEmulator.Proofs.Routing.Scheme
import Mathlib.Data.List.Induction

/-!
# The first pattern that matches

Patterns join an index at its end, so a URL that belongs to a service keeps it. A text that is
in the index matches nothing that the index does not match before, and its place can be left
out. The services are listed in the order of their first patterns.
-/

namespace CloudEmulator.UrlIndex

open Fallible

variable {index : UrlIndex} {service written url : String} {p q : UrlPattern}

/-- The text is in the index: a pattern of the index is what the text is compiled to. -/
def Lists (index : UrlIndex) (written : String) : Prop :=
  ∃ p ∈ index.patterns, UrlPattern.compile? p.service written = .ok p

/-- A text stays in an index that grows. -/
theorem Lists.extend (h : index.Lists written) (patterns : List UrlPattern) :
    (index.extend patterns).Lists written := by
  obtain ⟨p, hp, hcompile⟩ := h
  exact ⟨p, List.mem_append_left _ hp, hcompile⟩

/-- A text is in an index that has a pattern compiled from it. -/
theorem lists_of_mem (hp : p ∈ index.patterns)
    (hcompile : UrlPattern.compile? service written = .ok p) : index.Lists written := by
  obtain ⟨-, -, rfl⟩ := UrlPattern.compile?_eq_ok.mp hcompile
  exact ⟨p, hp, hcompile⟩

/-- A text that is in the index is accepted for every service, and is matched as it is
there. -/
theorem Lists.exists_pattern (h : index.Lists written) (service : String) :
    ∃ q ∈ index.patterns, UrlPattern.compile? service written = .ok ⟨service, q.pattern⟩ := by
  obtain ⟨q, hq, hcompile⟩ := h
  obtain ⟨hscheme, hanchored, -⟩ := UrlPattern.compile?_eq_ok.mp hcompile
  exact ⟨q, hq, UrlPattern.compile?_eq_ok.mpr ⟨hscheme, hanchored, rfl⟩⟩

/-- A pattern behind one that matches the same URLs decides nothing. -/
theorem classify?_behind {front : List UrlPattern} (hq : q ∈ front) (service : String)
    (later : List UrlPattern) (url : String) :
    (⟨front ++ ⟨service, q.pattern⟩ :: later⟩ : UrlIndex).classify? url =
      (⟨front ++ later⟩ : UrlIndex).classify? url := by
  unfold classify?
  rw [List.find?_append, List.find?_append]
  cases hfound : front.find? fun p => p.pattern.isMatch url with
  | some first => rfl
  | none =>
    have hunmatched := List.find?_eq_none.mp hfound q hq
    have hbehind : (⟨service, q.pattern⟩ :: later).find? (fun p => p.pattern.isMatch url) =
        later.find? fun p => p.pattern.isMatch url := List.find?_cons_of_neg hunmatched
    rw [hbehind]

/-- A text that is in the index changes the service of no URL when it is registered again,
for whichever service. -/
theorem Lists.register (h : index.Lists written) (service : String) :
    ∃ next, index.register service written = .ok next ∧
      ∀ url, next.classify? url = index.classify? url := by
  obtain ⟨q, hq, hcompile⟩ := h.exists_pattern service
  refine ⟨index.extend [⟨service, q.pattern⟩], map_eq_ok.mpr ⟨_, hcompile, rfl⟩, fun url => ?_⟩
  have hbehind := classify?_behind hq service [] url
  rw [List.append_nil] at hbehind
  exact hbehind

/-- Among compiled texts, one that is in the index or stands among them before can be left out:
every URL has the same service then. -/
theorem extend_mapM_without {front later : List String} {patterns : List UrlPattern}
    (hseen : index.Lists written ∨ written ∈ front)
    (hcompiled : (front ++ written :: later).mapM (UrlPattern.compile? service) = .ok patterns) :
    ∃ others, (front ++ later).mapM (UrlPattern.compile? service) = .ok others ∧
      ∀ url, (index.extend patterns).classify? url = (index.extend others).classify? url := by
  rw [List.mapM_append, List.mapM_cons] at hcompiled
  obtain ⟨before, hbefore, hcompiled⟩ := bind_eq_ok.mp hcompiled
  obtain ⟨all, hall, hpatterns⟩ := bind_eq_ok.mp hcompiled
  obtain ⟨p, hp, hall⟩ := bind_eq_ok.mp hall
  obtain ⟨behind, hbehind, hcons⟩ := bind_eq_ok.mp hall
  obtain rfl := Except.ok.inj hcons
  obtain rfl := Except.ok.inj hpatterns
  -- Either way the text is in the index that has the texts before it.
  have hlists : (index.extend before).Lists written := by
    rcases hseen with hlists | hfront
    · exact hlists.extend before
    · obtain ⟨q, hq, hcompile⟩ := exists_mem_of_mapM hbefore hfront
      exact lists_of_mem (List.mem_append_right _ hq) hcompile
  refine ⟨before ++ behind, ?_, fun url => ?_⟩
  · rw [List.mapM_append, hbefore, hbehind]
    rfl
  · obtain ⟨q, hq, hcompile⟩ := hlists.exists_pattern service
    obtain rfl := Except.ok.inj (hp.symm.trans hcompile)
    have hsame := classify?_behind hq service behind url
    simp only [extend, List.append_assoc] at hsame ⊢
    exact hsame

/-- The first pattern decides for every URL that it matches. -/
theorem classify?_of_first {rest : List UrlPattern} (hpatterns : index.patterns = p :: rest)
    (hmatch : p.pattern.isMatch url = true) : index.classify? url = some p.service := by
  have hfound : (p :: rest).find? (fun p => p.pattern.isMatch url) = some p :=
    List.find?_cons_of_pos hmatch
  rw [classify?, hpatterns, hfound, Option.map_some]

section Services

/-- One more name joins those before, unless it is among them. -/
theorem distinct_concat (names : List String) (name : String) :
    distinct (names ++ [name]) =
      if (distinct names).contains name then distinct names else distinct names ++ [name] := by
  simp [distinct]

/-- Every name is left. -/
theorem mem_distinct {names : List String} {name : String} :
    name ∈ distinct names ↔ name ∈ names := by
  induction names using List.reverseRecOn with
  | nil => rfl
  | append_singleton names last ih =>
    rw [distinct_concat, List.mem_append, List.mem_singleton, ← ih]
    split
    next hseen =>
      have hlast : last ∈ distinct names := List.contains_iff_mem.mp hseen
      constructor
      · exact .inl
      · rintro (hname | rfl)
        · exact hname
        · exact hlast
    next => rw [List.mem_append, List.mem_singleton]

/-- The names are left in the order of their first places, and so each of them once. -/
theorem distinct_ascending (names : List String) :
    (distinct names).Pairwise fun a b => names.idxOf a < names.idxOf b := by
  -- A new name stands behind all others, whose first places are as before.
  induction names using List.reverseRecOn with
  | nil => exact List.Pairwise.nil
  | append_singleton names last ih =>
    have hkept {name : String} (hname : name ∈ distinct names) :
        (names ++ [last]).idxOf name = names.idxOf name :=
      List.idxOf_append_of_mem (mem_distinct.mp hname)
    have hold : (distinct names).Pairwise fun a b =>
        (names ++ [last]).idxOf a < (names ++ [last]).idxOf b := by
      refine ih.imp_of_mem fun ha hb hlt => ?_
      rw [hkept ha, hkept hb]
      exact hlt
    rw [distinct_concat]
    split
    next => exact hold
    next hnew =>
      refine List.pairwise_append.mpr ⟨hold, List.pairwise_singleton _ _, fun a ha b hb => ?_⟩
      obtain rfl := List.mem_singleton.mp hb
      have hlast : b ∉ names := fun hmem => hnew (List.contains_iff_mem.mpr (mem_distinct.mpr hmem))
      rw [hkept ha, List.idxOf_append_of_notMem hlast]
      have hplace := List.idxOf_lt_length_of_mem (mem_distinct.mp ha)
      omega

end Services

end CloudEmulator.UrlIndex
