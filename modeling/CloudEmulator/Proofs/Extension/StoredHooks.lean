import CloudEmulator.Proofs.Extension.Loading

/-!
# Stored hooks

What a load calls and what it stores are functions of the script. The exception is a hook
that the script has only under a bare name: it is stored under a name that the script
lacks, so that every call of it fails.
-/

namespace CloudEmulator.Extension

open Script (Function Program)
open Declaration (Belongs Declares bareName)

variable {clocks : Clocks} {catalog : OperationCatalog} {program : Program} {d : Declaration}

/-- A function that belongs to the type under a bare name is one of the default type. -/
theorem stem_of_bareName {f : Function} {stem : String} {c : Capability} (h : Belongs f stem c)
    (hbare : f.name = bareName c) : stem = "" := by
  rw [← h.stem, hbare]
  cases c <;> decide +kernel

/-- A capability has no bare name. -/
theorem name_ne_bareName (c : Capability) : c.name ≠ bareName c := by
  cases c <;> decide

/-- A type of a script has its functions from the script. -/
theorem exists_belongs (hd : d ∈ Declaration.types program.functions) {c : Capability}
    {params : List String} (h : (c, params) ∈ d.functions) :
    ∃ f ∈ program.functions, Belongs f d.stem c ∧ f.params = params :=
  Declaration.declares_types_iff.mp ⟨d, hd, rfl, h⟩

/-- What a type has with so many parameters is a function of the script. -/
theorem exists_belongs_of_hasArity (hd : d ∈ Declaration.types program.functions)
    {c : Capability} {arity : Nat} (h : d.hasArity c arity = true) :
    ∃ f ∈ program.functions, Belongs f d.stem c ∧ f.arity = arity := by
  simp only [Declaration.hasArity, Declaration.overloads, List.any_eq_true, List.mem_map,
    List.mem_filter, beq_iff_eq] at h
  obtain ⟨params, ⟨⟨c', params'⟩, ⟨hmem, rfl⟩, rfl⟩, harity⟩ := h
  obtain ⟨f, hf, hbelongs, hparams⟩ := exists_belongs hd hmem
  exact ⟨f, hf, hbelongs, by rw [Function.arity, hparams, harity]⟩

/-- The name that a type gives to one of its capabilities is defined in the script exactly
where a function of the type is named so, and not by a bare name. -/
theorem defines_functionName_iff (hd : d ∈ Declaration.types program.functions)
    {c : Capability} (hhas : d.has c = true) {arity : Nat} :
    program.Defines (d.functionName c) arity ↔
      ∃ f ∈ program.functions, Belongs f d.stem c ∧ f.arity = arity ∧ f.name ≠ bareName c := by
  constructor
  · rintro ⟨f, hf, hname, harity⟩
    simp only [Declaration.has, List.any_eq_true, beq_iff_eq] at hhas
    obtain ⟨⟨c', params⟩, hmem, rfl⟩ := hhas
    obtain ⟨g, -, hbelongs, -⟩ := exists_belongs hd hmem
    -- The function found has the name of `g`, or that of a capability alone.
    by_cases hbare : g.name = bareName c'
    · have hstem := stem_of_bareName hbelongs hbare
      have hdefault : f.name = c'.name := by rw [hname, Declaration.functionName, hstem]; rfl
      exact ⟨f, hf, hstem ▸ belongs_default hdefault, harity, hdefault ▸ name_ne_bareName c'⟩
    · have hsame : f.name = g.name := hname.trans (hbelongs.functionName_eq_iff.mpr hbare)
      refine ⟨f, hf, ⟨?_, ?_⟩, harity, hsame ▸ hbare⟩
      · rw [hsame, hbelongs.stem]
      · rw [hsame, hbelongs.capability]
  · rintro ⟨f, hf, hbelongs, harity, hbare⟩
    exact ⟨f, hf, (hbelongs.functionName_eq_iff.mpr hbare).symm, harity⟩

/-- A stored hook has the name that its type gives it. The type has a function for it with
the parameters it is called with, and the hook is found exactly where one of these is not
named by a bare name. -/
structure Stored (program : Program) (d : Declaration) (hook : Capability × Nat)
    (name : String) : Prop where
  name_eq : name = d.functionName hook.1
  declared : ∃ f ∈ program.functions, Belongs f d.stem hook.1 ∧ f.arity = hook.2
  found_iff : program.Defines name hook.2 ↔
    ∃ f ∈ program.functions, Belongs f d.stem hook.1 ∧ f.arity = hook.2 ∧
      f.name ≠ bareName hook.1

/-- The functions that a load calls and stores for an extension of a type. -/
structure Backed (program : Program) (d : Declaration) (e : Extension) : Prop where
  selector : program.Defines (d.functionName .selector) 0
  id : program.Defines (d.functionName .id) 0
  init : d.has .init = true → program.Defines (d.functionName .init) 0
  hooks : ∃ request response, e.hooks = .script program request response ∧
    (∀ name, request = some name → Stored program d (.requestHook, 1) name) ∧
    (∀ name, response = some name → Stored program d (.responseHook, 3) name)

/-- What a load that succeeds promises about the functions of its script. -/
structure FunctionLaws (clocks : Clocks) (catalog : OperationCatalog) (program : Program)
    (es : List Extension) : Prop where
  /-- A function for a capability of a type is declared with it, and the type gives back
  its name exactly if that is not a bare one. -/
  named : ∀ f ∈ program.functions, ∀ {stem : String} {c : Capability}, Belongs f stem c →
    ∃ d ∈ Declaration.types program.functions, d.stem = stem ∧ (c, f.params) ∈ d.functions ∧
      (d.functionName c = f.name ↔ f.name ≠ bareName c)
  /-- Every extension is made from a type whose functions are there. -/
  backed : ∀ e ∈ es, ∃ d, MadeFrom clocks catalog program d e ∧ Backed program d e

/-- The hooks that a type stores. -/
theorem MadeFrom.stored {e : Extension} (h : MadeFrom clocks catalog program d e)
    {hook : Capability × Nat} (hmem : hook ∈ hookArities) {name : String}
    (hstored : d.stored hook.1 = some name) : Stored program d hook name := by
  have hd : d ∈ Declaration.types program.functions := List.mem_of_mem_filter h.known
  unfold Declaration.stored at hstored
  split at hstored
  next hhas =>
    obtain rfl := Option.some.inj hstored
    refine ⟨rfl, ?_, defines_functionName_iff hd hhas⟩
    exact exists_belongs_of_hasArity hd ((hasArity_of_checked h.checked).2 hook hmem hhas)
  next => cases hstored

/-- What is made from a type is backed by the functions of the script. -/
theorem MadeFrom.backed {e : Extension} (h : MadeFrom clocks catalog program d e) :
    Backed program d e := by
  obtain ⟨selector, hselector, hmade⟩ := h.instantiated
  obtain ⟨hinit, hid, -, hhooks⟩ := instantiate_eq_ok hmade
  refine ⟨defines_selector hselector, hid, hinit, _, _, hhooks, ?_, ?_⟩
  · exact fun name hname => h.stored (by simp [hookArities]) hname
  · exact fun name hname => h.stored (by simp [hookArities]) hname

/-- **Stored functions are there.** Where a script loads, its types give back the names of
all functions that are not named by a bare name, the functions called while loading are
there, and a stored hook is there unless the script has it under a bare name only. -/
theorem functionLaws {source : String} {es : List Extension}
    (hparse : Program.ofSource source = .ok program)
    (hload : ofSource clocks catalog source = .ok es) :
    FunctionLaws clocks catalog program es where
  named := by
    intro f hf stem c hbelongs
    obtain ⟨d, hd, rfl, hmem⟩ := Declaration.declares_types_iff.mpr ⟨f, hf, hbelongs, rfl⟩
    exact ⟨d, hd, rfl, hmem, hbelongs.functionName_eq_iff⟩
  backed := by
    intro e he
    have hprogram : ofProgram clocks catalog program = .ok es := by
      simpa [ofSource, hparse] using hload
    obtain ⟨d, hmade⟩ := exists_madeFrom hprogram he
    exact ⟨d, hmade, hmade.backed⟩

/-- A catalog with one operation. -/
def pingCatalog : OperationCatalog := .ofList ["svc1:Ping"]

/-- A script of two types, one of them with all capabilities and a leading low line. -/
def taggedSource : String :=
  "fn id() \x7b \"audit\" \x7d fn selector() \x7b [\"svc1:Ping\"] \x7d" ++
  "fn request_hook(request) \x7b \x7d" ++
  "fn _Tag___id() \x7b \"tag\" \x7d fn _Tag___selector() \x7b [] \x7d fn _Tag___init() \x7b 1 \x7d" ++
  "fn _Tag___response_hook(status, headers, body) \x7b \x7d"

/-- The laws of a script that loads. -/
theorem functionLaws_tagged :
    ∃ program es, Program.ofSource taggedSource = .ok program ∧
      ofSource (.still ⟨0, 0⟩) pingCatalog taggedSource = .ok es ∧
      es.map (·.id) = ["audit", "tag"] ∧ FunctionLaws (.still ⟨0, 0⟩) pingCatalog program es := by
  have hids : (ofSource (.still ⟨0, 0⟩) pingCatalog taggedSource).toOption.map (·.map (·.id)) =
      some ["audit", "tag"] := by decide +kernel
  cases hload : ofSource (.still ⟨0, 0⟩) pingCatalog taggedSource with
  | error fault => simp [hload, Except.toOption] at hids
  | ok es =>
    cases hparse : Program.ofSource taggedSource with
    | error fault => simp [ofSource, hparse] at hload
    | ok program =>
      refine ⟨program, es, rfl, rfl, ?_, functionLaws hparse hload⟩
      simpa [hload, Except.toOption] using hids

/-- A script whose only hook has a bare name. -/
def bareSource : String :=
  "fn id() \x7b \"a\" \x7d fn selector() \x7b [\"svc1:Ping\"] \x7d" ++
  "fn __request_hook(request) \x7b #\x7b status: 201, body: \"x\" \x7d \x7d"

/-- The name under which the request hook is stored, where the script lacks it. -/
def missingRequestHook? (e : Extension) : Option String :=
  match e.hooks with
  | .script program (some name) _ =>
    if (Function.find? program.functions name 1).isSome then none else some name
  | _ => none

/-- A hook under a bare name is loaded, but stored under a name that its script lacks. -/
theorem bareSource_hook_missing :
    ∃ es, ofSource (.still ⟨0, 0⟩) pingCatalog bareSource = .ok es ∧
      ∃ e ∈ es, ∃ program response, e.hooks = .script program (some "request_hook") response ∧
        ¬ program.Defines "request_hook" 1 := by
  have hmissing : (ofSource (.still ⟨0, 0⟩) pingCatalog bareSource).toOption.map
      (·.map missingRequestHook?) = some [some "request_hook"] := by decide +kernel
  cases hload : ofSource (.still ⟨0, 0⟩) pingCatalog bareSource with
  | error fault => simp [hload, Except.toOption] at hmissing
  | ok es =>
    have hlist : es.map missingRequestHook? = [some "request_hook"] := by
      simpa [hload, Except.toOption] using hmissing
    obtain ⟨e, rfl, he⟩ := List.map_eq_singleton_iff.mp hlist
    refine ⟨[e], rfl, e, List.mem_singleton_self e, ?_⟩
    unfold missingRequestHook? at he
    split at he
    next program name response hhooks =>
      split at he
      next => cases he
      next hnone =>
        obtain rfl := Option.some.inj he
        exact ⟨program, response, hhooks, fun h => hnone (Program.defines_iff.mp h)⟩
    next => cases he

end CloudEmulator.Extension
