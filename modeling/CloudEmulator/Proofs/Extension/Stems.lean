import CloudEmulator.Proofs.Extension.DeclaredTypes
import Mathlib.Data.List.Sort

/-!
# Types by the names of their functions

What the types of a script are, told by the names of its functions and without the loader's way
of grouping them: a name joins the stem of a type and what the function is for. The functions
that the loader groups under a stem are those whose names do.
-/

namespace CloudEmulator.Extension

open Declaration (Belongs ofStem extensionTypes separator)
open Script (Function Program)

variable {program : Program} {stem other part : String} {stems : List String} {c : Capability}
  {f : Function} {d : Declaration}

/-- The name joins a stem and a part of the type with this stem. The type without a prefix has
an empty stem, and its parts may also stand alone. -/
def Joins (stem part name : String) : Prop :=
  name = stem ++ "__" ++ part ∨ (stem = "" ∧ name = part)

instance (stem part name : String) : Decidable (Joins stem part name) :=
  inferInstanceAs (Decidable (_ ∨ _))

/-- The functions for a part of the type with the stem, in the order of the script. -/
def functionsFor (program : Program) (stem part : String) : List Function :=
  program.functions.filter fun f => Joins stem part f.name

/-- The script has a function for a part of the type with the stem. -/
def Provides (program : Program) (stem part : String) : Prop :=
  ∃ f ∈ program.functions, Joins stem part f.name

/-- The script has a function with so many parameters for a part of the type with the stem. -/
def ProvidesWith (program : Program) (stem part : String) (arity : Nat) : Prop :=
  ∃ f ∈ program.functions, Joins stem part f.name ∧ f.params.length = arity

instance (program : Program) (stem part : String) : Decidable (Provides program stem part) :=
  inferInstanceAs (Decidable (∃ f ∈ program.functions, Joins stem part f.name))

instance (program : Program) (stem part : String) (arity : Nat) :
    Decidable (ProvidesWith program stem part arity) :=
  inferInstanceAs
    (Decidable (∃ f ∈ program.functions, Joins stem part f.name ∧ f.params.length = arity))

/-- The script has a hook of the type with the stem. -/
def Hooked (program : Program) (stem : String) : Prop :=
  Provides program stem "request_hook" ∨ Provides program stem "response_hook"

/-- The stems of the types with a hook, in ascending order. -/
structure HookedStems (program : Program) (stems : List String) : Prop where
  ascending : stems.Pairwise (· < ·)
  hooked : ∀ stem, stem ∈ stems ↔ Hooked program stem

/-- The name under which a part of the type is called. -/
def called (stem part : String) : String :=
  if stem = "" then part else stem ++ "__" ++ part

/-- The name of the type in reports. -/
def reported (stem : String) : String :=
  if stem = "" then "default" else stem

/-- A function is for a part of a type exactly where its name joins them. -/
theorem mem_functionsFor :
    f ∈ functionsFor program stem part ↔ f ∈ program.functions ∧ Joins stem part f.name := by
  simp [functionsFor]

/-- Without a function for it, the script does not have the part. -/
theorem functionsFor_eq_nil_iff :
    functionsFor program stem part = [] ↔ ¬ Provides program stem part := by
  simp [functionsFor, Provides]

/-- Types of different stems have different names for their functions. -/
theorem stem_eq_of_called (h : called stem part = called other part) : stem = other := by
  have hlonger (stem : String) : stem ++ "__" ++ part ≠ part := by
    intro heq
    have hlength := congrArg String.length heq
    simp [String.length_append] at hlength
  unfold called at h
  split at h <;> split at h
  next hstem hother => rw [hstem, hother]
  next => exact absurd h.symm (hlonger _)
  next => exact absurd h (hlonger _)
  next => simpa [← String.toList_inj] using h

/-- The name of a capability alone belongs to the default type. -/
theorem belongs_default (h : f.name = c.name) : Belongs f "" c where
  stem := by rw [h]; cases c <;> decide +kernel
  capability := by rw [h]; cases c <;> decide +kernel

/-- A function belongs to a type exactly where its name joins the stem and the capability. -/
theorem belongs_iff : Belongs f stem c ↔ Joins stem c.name f.name := by
  constructor
  · intro h
    have hrest := Declaration.name_of_ofName? h.capability
    have hstem := h.stem
    rcases Declaration.splitName_cases f.name with hwhole | hcut
    · rw [hwhole] at hrest hstem
      exact .inr ⟨hstem.symm, hrest.symm⟩
    · rw [hstem, ← hrest] at hcut
      exact .inl hcut
  · rintro (hname | ⟨rfl, hname⟩)
    · have hsplit := Declaration.splitName_append stem c
      have hcapability : Capability.ofName? c.name = some c := by cases c <;> rfl
      change f.name = stem ++ separator ++ c.name at hname
      rw [← hname] at hsplit
      exact ⟨congrArg Prod.fst hsplit, (congrArg _ (congrArg Prod.snd hsplit)).trans hcapability⟩
    · exact belongs_default hname

/-- A function has a role for the stem that it belongs to. -/
theorem role?_eq_some_iff {params : List String} :
    Declaration.role? stem f = some (c, params) ↔ Belongs f stem c ∧ f.params = params := by
  unfold Declaration.role?
  constructor
  · intro h
    split at h
    next hstem =>
      obtain ⟨c', hcapability, heq⟩ := Option.map_eq_some_iff.mp h
      obtain ⟨rfl, rfl⟩ := Prod.mk.inj heq
      exact ⟨⟨hstem, hcapability⟩, rfl⟩
    next => cases h
  · rintro ⟨hbelongs, rfl⟩
    rw [if_pos hbelongs.stem, hbelongs.capability]
    rfl

section Grouped

/-- The type of a stem is reported by the name for the stem. -/
@[simp] theorem typeName_ofStem (functions : List Function) (stem : String) :
    (ofStem functions stem).typeName = reported stem := by
  simp [Declaration.typeName, ofStem, reported, Declaration.defaultType]

/-- The type of a stem calls its functions by the names for the stem. -/
@[simp] theorem functionName_ofStem (functions : List Function) (stem : String)
    (c : Capability) : (ofStem functions stem).functionName c = called stem c.name := by
  simp [Declaration.functionName, ofStem, called]

/-- The type of a stem has the parameters of the functions for it. -/
@[simp] theorem overloads_ofStem (program : Program) (stem : String) (c : Capability) :
    (ofStem program.functions stem).overloads c =
      (functionsFor program stem c.name).map (·.params) := by
  unfold Declaration.overloads ofStem functionsFor
  induction program.functions with
  | nil => rfl
  | cons f functions ih =>
    have hrole (params : List String) : Declaration.role? stem f = some (c, params) ↔
        Joins stem c.name f.name ∧ f.params = params :=
      role?_eq_some_iff.trans (and_congr_left' belongs_iff)
    by_cases hjoins : Joins stem c.name f.name
    · have hsome := (hrole f.params).mpr ⟨hjoins, rfl⟩
      simp [hsome, hjoins, ih]
    · have hnone (role : Capability × List String) (hsome : Declaration.role? stem f = some role) :
          (role.1 == c) = false := by
        rw [beq_eq_false_iff_ne]
        rintro rfl
        exact hjoins ((hrole role.2).mp hsome).1
      cases hfirst : Declaration.role? stem f with
      | none => simp [hfirst, hjoins, ih]
      | some role => simp [hfirst, hnone role hfirst, hjoins, ih]

/-- The type of a stem has a function for a capability where the script has one for the stem. -/
theorem has_ofStem_iff :
    (ofStem program.functions stem).has c = true ↔ Provides program stem c.name := by
  have hhas (d : Declaration) : d.has c = true ↔ d.overloads c ≠ [] := by
    simp [Declaration.has, Declaration.overloads]
  rw [hhas, overloads_ofStem, ne_eq, List.map_eq_nil_iff, functionsFor_eq_nil_iff, not_not]

/-- The type of a stem has a function with so many parameters where the script has one. -/
theorem hasArity_ofStem_iff {arity : Nat} :
    (ofStem program.functions stem).hasArity c arity = true ↔
      ProvidesWith program stem c.name arity := by
  simp [Declaration.hasArity, ProvidesWith, mem_functionsFor, and_assoc]

/-- The types with a hook, among all types of some functions. -/
theorem mem_extensionTypes_iff {functions : List Function} : d ∈ extensionTypes functions ↔
    d = ofStem functions d.stem ∧ d.isExtension = true := by
  rw [extensionTypes, List.mem_filter, Declaration.mem_types_iff]
  refine ⟨fun h => ⟨h.1.1, h.2⟩, fun h => ⟨⟨h.1, fun hnone => ?_⟩, h.2⟩⟩
  have hhook := h.2
  rw [Declaration.isExtension, Declaration.has, Declaration.has, hnone] at hhook
  cases hhook

/-- The extension types are those of the stems with a hook. -/
theorem hooked_iff :
    Hooked program stem ↔ ofStem program.functions stem ∈ extensionTypes program.functions := by
  have hstem : (ofStem program.functions stem).stem = stem := rfl
  rw [mem_extensionTypes_iff, hstem, Declaration.isExtension, Bool.or_eq_true, has_ofStem_iff,
    has_ofStem_iff]
  exact ⟨fun h => ⟨rfl, h⟩, fun h => h.2⟩

/-- The stems of the extension types are those with a hook, in ascending order. -/
theorem hookedStems_extensionTypes (program : Program) :
    HookedStems program ((extensionTypes program.functions).map (·.stem)) where
  ascending := List.pairwise_map.mpr ((Declaration.ascending_types program.functions).filter _)
  hooked := by
    intro stem
    rw [hooked_iff, List.mem_map]
    constructor
    · rintro ⟨d, hd, rfl⟩
      exact (mem_extensionTypes_iff.mp hd).1 ▸ hd
    · exact fun h => ⟨_, h, rfl⟩

/-- A script has no extension type where no stem has a hook. -/
theorem extensionTypes_eq_nil_iff :
    extensionTypes program.functions = [] ↔ ∀ stem, ¬ Hooked program stem := by
  have hstems := hookedStems_extensionTypes program
  rw [← List.map_eq_nil_iff (f := (·.stem)), List.eq_nil_iff_forall_not_mem]
  exact forall_congr' fun stem => not_congr (hstems.hooked stem)

/-- The stems with a hook are one list. -/
theorem HookedStems.unique {stems' : List String} (h : HookedStems program stems)
    (h' : HookedStems program stems') : stems = stems' :=
  h.ascending.eq_of_mem_iff h'.ascending fun stem => (h.hooked stem).trans (h'.hooked stem).symm

/-- The extension types are those of the stems with a hook, in turn. -/
theorem HookedStems.extensionTypes_eq (h : HookedStems program stems) :
    extensionTypes program.functions = stems.map (ofStem program.functions) := by
  rw [h.unique (hookedStems_extensionTypes program), List.map_map]
  exact (List.map_id _).symm.trans
    (List.map_congr_left fun d hd => (mem_extensionTypes_iff.mp hd).1)

/-- The type without a prefix comes first. -/
theorem HookedStems.head_eq (h : HookedStems program stems) (hempty : "" ∈ stems) :
    stems.head? = some "" := by
  cases stems with
  | nil => cases hempty
  | cons first rest =>
    rcases List.mem_cons.mp hempty with hfirst | hrest
    · rw [← hfirst]
      rfl
    · have hlt := (List.pairwise_cons.mp h.ascending).1 "" hrest
      exact absurd hlt (List.not_lt_nil first.toList)

end Grouped

end CloudEmulator.Extension
