import CloudEmulator.Extension.Declaration
import Mathlib.Data.List.Basic

/-!
# The names of declared functions

A function joins a type by its name, which is cut at the last double underscore. Put
together again, the parts give the name, except where nothing stands before the
underscores: then the function joins the default type, whose functions have no
underscores in front.
-/

namespace CloudEmulator

/-- What follows a mark stands behind it. -/
theorem Text.after?_eq_some {mark cs rest : List Char} (h : Text.after? mark cs = some rest) :
    ∃ front, cs = front ++ mark ++ rest := by
  induction cs with
  | nil =>
    simp only [Text.after?] at h
    split at h
    next hmark =>
      cases h
      exact ⟨[], by simpa using hmark⟩
    next => cases h
  | cons c cs ih =>
    simp only [Text.after?] at h
    split at h
    next hfront =>
      cases h
      obtain ⟨rest, hrest⟩ := List.isPrefixOf_iff_prefix.mp hfront
      refine ⟨[], ?_⟩
      rw [← hrest, List.drop_left, List.nil_append]
    next =>
      obtain ⟨front, rfl⟩ := ih h
      exact ⟨c :: front, rfl⟩

namespace Extension.Declaration

open Script (Function)

/-- The separator between the name of a type and a capability. -/
def separator : String := "__"

/-- The separator alone before a capability. -/
def bareName (c : Capability) : String :=
  separator ++ c.name

/-- The function is one of the type with the stem, for the capability. -/
structure Belongs (f : Function) (stem : String) (c : Capability) : Prop where
  stem : (splitName f.name).1 = stem
  capability : Capability.ofName? (splitName f.name).2 = some c

/-- A function with these parameters is declared for a capability of a type. -/
def Declares (ds : List Declaration) (stem : String) (c : Capability) (params : List String) :
    Prop :=
  ∃ d ∈ ds, d.stem = stem ∧ (c, params) ∈ d.functions

/-- A capability has its own name. -/
theorem name_of_ofName? {s : String} {c : Capability} (h : Capability.ofName? s = some c) :
    c.name = s := by
  have hname := List.find?_some h
  simpa using hname

/-- The parts around the last separator make up the text. -/
theorem eq_of_splitLast? {cs stem rest : List Char} (h : splitLast? cs = some (stem, rest)) :
    cs = stem ++ ['_', '_'] ++ rest := by
  unfold splitLast? at h
  split at h
  next => cases h
  next back hafter =>
    obtain ⟨front, hfront⟩ := Text.after?_eq_some hafter
    have hcs : cs = back.reverse ++ ['_', '_'] ++ front.reverse := by
      rw [← List.reverse_reverse cs, hfront]
      simp
    have hdrop : cs.drop (back.length + 2) = front.reverse := by
      rw [hcs]
      exact List.drop_left' (by simp)
    obtain ⟨rfl, rfl⟩ := Prod.mk.inj (Option.some.inj h)
    rw [hdrop, ← hcs]

/-- A name is cut into the stem and the rest around a separator, or not at all. -/
theorem splitName_cases (name : String) :
    splitName name = ("", name) ∨
      name = (splitName name).1 ++ separator ++ (splitName name).2 := by
  cases hsplit : splitLast? name.toList with
  | none =>
    left
    simp [splitName, hsplit]
  | some parts =>
    right
    obtain ⟨stem, rest⟩ := parts
    have hname := congrArg String.ofList (eq_of_splitLast? hsplit)
    have hmark : String.ofList ['_', '_'] = separator := rfl
    rw [String.ofList_toList, String.ofList_append, String.ofList_append, hmark] at hname
    simpa only [splitName, hsplit] using hname

/-- A capability behind a separator is cut off, whatever the stem: no name of a capability has
a separator in it, or begins with a part of one. -/
theorem splitName_append (stem : String) (c : Capability) :
    splitName (stem ++ separator ++ c.name) = (stem, c.name) := by
  have hafter (back : List Char) :
      Text.after? ['_', '_'] (c.name.toList.reverse ++ '_' :: '_' :: back) = some back := by
    cases c <;> rfl
  have hsplit : splitLast? (stem.toList ++ ['_', '_'] ++ c.name.toList) =
      some (stem.toList, c.name.toList) := by
    unfold splitLast?
    simp [hafter]
  have hname : (stem ++ separator ++ c.name).toList =
      stem.toList ++ ['_', '_'] ++ c.name.toList := by
    simp [separator]
  simp only [splitName, hname, hsplit, String.ofList_toList]

/-- A type gives back the name of a function for one of its capabilities, unless the
name is a bare one. -/
theorem Belongs.functionName_eq_iff {f : Function} {d : Declaration} {c : Capability}
    (h : Belongs f d.stem c) : d.functionName c = f.name ↔ f.name ≠ bareName c := by
  have hrest := name_of_ofName? h.capability
  have hstem := h.stem
  have hlength : ∀ {stem : String}, stem ++ separator ++ c.name = bareName c → stem = "" := by
    intro stem heq
    have hlen := congrArg String.length heq
    simp only [bareName, String.length_append] at hlen
    exact String.length_eq_zero_iff.mp (by omega)
  rcases splitName_cases f.name with hwhole | hcut
  · rw [hwhole] at hrest hstem
    have hname : d.functionName c = f.name := by
      simp [functionName, ← hstem, hrest]
    refine ⟨fun _ hbare => ?_, fun _ => hname⟩
    have hlen := congrArg String.length (hrest.trans hbare)
    simp [bareName, separator, String.length_append] at hlen
  · rw [hstem, ← hrest] at hcut
    by_cases hempty : d.stem = ""
    · have hbare : f.name = bareName c := by rw [hcut, hempty]; rfl
      refine ⟨fun hname => ?_, fun hnot => absurd hbare hnot⟩
      rw [functionName, hempty, hbare] at hname
      have hlen := congrArg String.length hname
      simp [bareName, separator, String.length_append] at hlen
    · have hname : d.functionName c = f.name := by
        rw [hcut]
        simp [functionName, hempty, separator]
      exact ⟨fun _ hbare => hempty (hlength (hcut ▸ hbare)), fun _ => hname⟩

/-- One more function is declared beside those declared before. -/
theorem declares_insert_iff {ds : List Declaration} {stem stem' : String} {c c' : Capability}
    {params params' : List String} :
    Declares (insert stem c params ds) stem' c' params' ↔
      (stem' = stem ∧ c' = c ∧ params' = params) ∨ Declares ds stem' c' params' := by
  induction ds with
  | nil => simp [insert, Declares, eq_comm]
  | cons d ds ih =>
    have hcons : ∀ {d : Declaration} {ds : List Declaration}, Declares (d :: ds) stem' c' params' ↔
        (d.stem = stem' ∧ (c', params') ∈ d.functions) ∨ Declares ds stem' c' params' := by
      simp [Declares]
    unfold insert
    split
    next hstem =>
      obtain rfl : stem = d.stem := by simpa using hstem
      rw [hcons, hcons]
      simp only [List.mem_append, List.mem_singleton, Prod.mk.injEq]
      tauto
    next =>
      split
      next =>
        rw [hcons]
        simp only [List.mem_singleton, Prod.mk.injEq]
        tauto
      next =>
        rw [hcons, hcons, ih]
        tauto

/-- What is declared once a function was added: it, if it belongs to a type, and what
was declared before. -/
theorem declares_add_iff {ds : List Declaration} {f : Function} {stem : String}
    {c : Capability} {params : List String} :
    Declares (add ds f) stem c params ↔
      (Belongs f stem c ∧ f.params = params) ∨ Declares ds stem c params := by
  have hbelongs : Belongs f stem c ↔
      (splitName f.name).1 = stem ∧ Capability.ofName? (splitName f.name).2 = some c :=
    ⟨fun h => ⟨h.stem, h.capability⟩, fun h => ⟨h.1, h.2⟩⟩
  rw [hbelongs]
  unfold add
  cases hcapability : Capability.ofName? (splitName f.name).2 with
  | none => simp [hcapability]
  | some c' =>
    simp only [hcapability, declares_insert_iff, Option.some.injEq]
    constructor
    · rintro (⟨rfl, rfl, rfl⟩ | h)
      · exact .inl ⟨⟨rfl, rfl⟩, rfl⟩
      · exact .inr h
    · rintro (⟨⟨rfl, rfl⟩, rfl⟩ | h)
      · exact .inl ⟨rfl, rfl, rfl⟩
      · exact .inr h

/-- The types of some functions declare exactly the functions that belong to a type. -/
theorem declares_types_iff {functions : List Function} {stem : String} {c : Capability}
    {params : List String} :
    Declares (types functions) stem c params ↔
      ∃ f ∈ functions, Belongs f stem c ∧ f.params = params := by
  have hfold : ∀ ds, Declares (functions.foldl add ds) stem c params ↔
      Declares ds stem c params ∨ ∃ f ∈ functions, Belongs f stem c ∧ f.params = params := by
    induction functions with
    | nil => simp
    | cons f functions ih =>
      intro ds
      rw [List.foldl_cons, ih, declares_add_iff]
      simp only [List.mem_cons, exists_eq_or_imp]
      tauto
  rw [types, hfold]
  simp [Declares]

end Extension.Declaration

end CloudEmulator
