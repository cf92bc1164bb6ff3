import CloudEmulator.Proofs.Extension.FunctionNames
import Mathlib.Data.List.Basic

/-!
# The types of a script

The types of some functions are told from the functions alone: there is one for each stem
that a function for a capability has, with these functions, and they stand by ascending stems.
-/

namespace CloudEmulator.Extension.Declaration

open Script (Function)

variable {ds : List Declaration} {d : Declaration} {stem other : String} {c : Capability}
  {params : List String} {functions : List Function}

/-- The types stand by ascending stems, each stem once. -/
def Ascending (ds : List Declaration) : Prop :=
  ds.Pairwise fun d d' => d.stem < d'.stem

/-- The functions that some types have for a stem. -/
def functionsOf (stem : String) (ds : List Declaration) : List (Capability × List String) :=
  (ds.filter (·.stem == stem)).flatMap (·.functions)

/-- What a function is to the type of a stem, if it belongs to it. -/
def role? (stem : String) (f : Function) : Option (Capability × List String) :=
  if (splitName f.name).1 = stem then
    (Capability.ofName? (splitName f.name).2).map fun c => (c, f.params)
  else none

/-- The type of a stem. -/
def ofStem (functions : List Function) (stem : String) : Declaration :=
  ⟨stem, functions.filterMap (role? stem)⟩

section Insertion

theorem functionsOf_append (stem : String) (front later : List Declaration) :
    functionsOf stem (front ++ later) = functionsOf stem front ++ functionsOf stem later := by
  simp [functionsOf]

theorem functionsOf_cons (stem : String) (d : Declaration) (ds : List Declaration) :
    functionsOf stem (d :: ds) = (if d.stem = stem then d.functions else []) ++
      functionsOf stem ds := by
  by_cases h : d.stem = stem <;> simp [functionsOf, h]

/-- Without a type of the stem there are no functions for it. -/
theorem functionsOf_eq_nil (h : ∀ d ∈ ds, d.stem ≠ stem) : functionsOf stem ds = [] := by
  have hnone : ds.filter (·.stem == stem) = [] := by simpa using h
  rw [functionsOf, hnone]
  rfl

/-- Some types with a function put into place: the types before its own, the functions that
its own had, if it was there, and the types behind. -/
structure Placed (stem : String) (c : Capability) (params : List String)
    (ds next front : List Declaration) (own : List (Capability × List String))
    (later : List Declaration) : Prop where
  was : (ds = front ++ later ∧ own = []) ∨ ds = front ++ ⟨stem, own⟩ :: later
  is : next = front ++ ⟨stem, own ++ [(c, params)]⟩ :: later
  front : ∀ d ∈ front, d.stem < stem
  later : ∀ d ∈ later, stem < d.stem

/-- In ascending types every function has its place. -/
theorem Ascending.exists_placed (h : Ascending ds) (stem : String) (c : Capability)
    (params : List String) :
    ∃ front own later, Placed stem c params ds (insert stem c params ds) front own later := by
  induction ds with
  | nil => exact ⟨[], [], [], .inl ⟨rfl, rfl⟩, rfl, nofun, nofun⟩
  | cons first ds ih =>
    obtain ⟨hfirst, hds⟩ := List.pairwise_cons.mp h
    unfold insert
    split
    next hstem =>
      obtain rfl : stem = first.stem := beq_iff_eq.mp hstem
      exact ⟨[], first.functions, ds, .inr rfl, rfl, nofun, hfirst⟩
    next hother =>
      split
      next hbefore =>
        refine ⟨[], [], first :: ds, .inl ⟨rfl, rfl⟩, rfl, nofun, ?_⟩
        exact List.forall_mem_cons.mpr
          ⟨hbefore, fun d hd => String.lt_trans hbefore (hfirst d hd)⟩
      next hbehind =>
        have hne : first.stem ≠ stem := fun heq => hother (beq_iff_eq.mpr heq.symm)
        have hlt : first.stem < stem := Std.lt_of_le_of_ne (String.not_lt.mp hbehind) hne
        obtain ⟨front, own, later, hwas, his, hfront, hlater⟩ := ih hds
        refine ⟨first :: front, own, later, ?_, by rw [his]; rfl,
          List.forall_mem_cons.mpr ⟨hlt, hfront⟩, hlater⟩
        rcases hwas with ⟨rfl, hown⟩ | rfl
        · exact .inl ⟨rfl, hown⟩
        · exact .inr rfl

variable {next front later : List Declaration} {own : List (Capability × List String)}

/-- The types around the place were there before. -/
theorem Placed.sublist (h : Placed stem c params ds next front own later) :
    (front ++ later).Sublist ds := by
  rcases h.was with ⟨rfl, -⟩ | rfl
  · exact List.Sublist.refl _
  · exact (List.Sublist.refl front).append (List.sublist_cons_self _ later)

/-- With a function put into place, the types ascend as before. -/
theorem Placed.ascending (h : Placed stem c params ds next front own later)
    (hds : Ascending ds) : Ascending next := by
  obtain ⟨hfront, hlater, hacross⟩ := List.pairwise_append.mp (hds.sublist h.sublist)
  rw [h.is]
  refine List.pairwise_append.mpr ⟨hfront, List.pairwise_cons.mpr ⟨h.later, hlater⟩, ?_⟩
  intro d hd
  exact List.forall_mem_cons.mpr ⟨h.front d hd, hacross d hd⟩

/-- The function joins those of its stem, behind the ones before. -/
theorem Placed.functionsOf (h : Placed stem c params ds next front own later) (other : String) :
    functionsOf other next =
      functionsOf other ds ++ if stem = other then [(c, params)] else [] := by
  have hsplit : Declaration.functionsOf other ds = Declaration.functionsOf other front ++
      ((if stem = other then own else []) ++ Declaration.functionsOf other later) := by
    rcases h.was with ⟨rfl, rfl⟩ | rfl
    · simp [functionsOf_append]
    · rw [functionsOf_append, functionsOf_cons]
  rw [h.is, functionsOf_append, functionsOf_cons, hsplit]
  by_cases hother : stem = other
  · subst hother
    have hlater : Declaration.functionsOf stem later = [] :=
      functionsOf_eq_nil fun d hd => (Std.ne_of_lt (h.later d hd)).symm
    simp [hlater]
  · simp [hother]

/-- With a function put into place, every type has a function. -/
theorem Placed.functions_ne_nil (h : Placed stem c params ds next front own later)
    (hds : ∀ d ∈ ds, d.functions ≠ []) (hd : d ∈ next) : d.functions ≠ [] := by
  rw [h.is] at hd
  rcases List.mem_append.mp hd with hd | hd
  · exact hds d (h.sublist.subset (List.mem_append_left _ hd))
  · rcases List.mem_cons.mp hd with rfl | hd
    · simp
    · exact hds d (h.sublist.subset (List.mem_append_right _ hd))

end Insertion

/-- In ascending types, a type has the functions of its stem. -/
theorem Ascending.functionsOf_stem (h : Ascending ds) (hd : d ∈ ds) :
    functionsOf d.stem ds = d.functions := by
  obtain ⟨front, later, rfl⟩ := List.append_of_mem hd
  obtain ⟨-, hlater, hfront⟩ := List.pairwise_append.mp h
  have hbefore : functionsOf d.stem front = [] :=
    functionsOf_eq_nil fun x hx => Std.ne_of_lt (hfront x hx d List.mem_cons_self)
  have hbehind : functionsOf d.stem later = [] :=
    functionsOf_eq_nil fun x hx => (Std.ne_of_lt ((List.pairwise_cons.mp hlater).1 x hx)).symm
  rw [functionsOf_append, functionsOf_cons, if_pos rfl, hbefore, hbehind, List.append_nil,
    List.nil_append]

/-- What the types are like once functions were added: they ascend, have functions, and each
stem has the functions that belong to it behind those before. -/
structure Grown (ds : List Declaration) (functions : List Function) (next : List Declaration) :
    Prop where
  ascending : Ascending next
  inhabited : ∀ d ∈ next, d.functions ≠ []
  functions : ∀ stem, functionsOf stem next =
    functionsOf stem ds ++ functions.filterMap (role? stem)

/-- Functions are added in turn. The induction is on the functions. -/
theorem grown_foldl (hds : Ascending ds) (hinhabited : ∀ d ∈ ds, d.functions ≠ []) :
    Grown ds functions (functions.foldl add ds) := by
  induction functions generalizing ds with
  | nil => exact ⟨hds, hinhabited, fun stem => (List.append_nil _).symm⟩
  | cons f functions ih =>
    rw [List.foldl_cons]
    cases hcapability : Capability.ofName? (splitName f.name).2 with
    | none =>
      have hadd : add ds f = ds := by simp [add, hcapability]
      have hrole : ∀ stem, role? stem f = none := by simp [role?, hcapability]
      obtain ⟨hnext, hnonempty, hfunctions⟩ := ih hds hinhabited
      rw [hadd]
      refine ⟨hnext, hnonempty, fun stem => ?_⟩
      rw [hfunctions, List.filterMap_cons_none (hrole stem)]
    | some c =>
      have hadd : add ds f = insert (splitName f.name).1 c f.params ds := by
        simp [add, hcapability]
      have hrole : ∀ stem, role? stem f =
          if (splitName f.name).1 = stem then some (c, f.params) else none := by
        simp [role?, hcapability]
      obtain ⟨front, own, later, hplaced⟩ := hds.exists_placed (splitName f.name).1 c f.params
      obtain ⟨hnext, hnonempty, hfunctions⟩ :=
        ih (hplaced.ascending hds) fun d hd => hplaced.functions_ne_nil hinhabited hd
      rw [hadd]
      refine ⟨hnext, hnonempty, fun stem => ?_⟩
      rw [hfunctions, hplaced.functionsOf, List.append_assoc, List.filterMap_cons, hrole]
      split <;> rfl

/-- The types of some functions. -/
theorem grown_types (functions : List Function) : Grown [] functions (types functions) :=
  grown_foldl List.Pairwise.nil nofun

/-- The types stand by ascending stems. -/
theorem ascending_types (functions : List Function) : Ascending (types functions) :=
  (grown_types functions).ascending

/-- A stem without a type has no functions. -/
theorem exists_of_functionsOf_ne_nil (h : functionsOf stem ds ≠ []) : ∃ d ∈ ds, d.stem = stem := by
  by_contra hnone
  exact h (functionsOf_eq_nil fun d hd heq => hnone ⟨d, hd, heq⟩)

/-- The types are those of the stems that have a function for a capability. -/
theorem mem_types_iff : d ∈ types functions ↔
    d = ofStem functions d.stem ∧ d.functions ≠ [] := by
  have hgrown := grown_types functions
  have hfunctions (stem : String) : functionsOf stem (types functions) =
      (ofStem functions stem).functions := by
    rw [hgrown.functions]
    rfl
  have hown {d : Declaration} (hd : d ∈ types functions) : d = ofStem functions d.stem := by
    have hd := (hgrown.ascending.functionsOf_stem hd).symm.trans (hfunctions d.stem)
    rw [Declaration.mk.injEq]
    exact ⟨rfl, hd⟩
  constructor
  · exact fun hd => ⟨hown hd, hgrown.inhabited d hd⟩
  · rintro ⟨hd, hsome⟩
    have hstem : functionsOf d.stem (types functions) ≠ [] := by
      rw [hfunctions, ← hd]
      exact hsome
    obtain ⟨d', hd', hsame⟩ := exists_of_functionsOf_ne_nil hstem
    rw [hd, ← hsame, ← hown hd']
    exact hd'

end CloudEmulator.Extension.Declaration
