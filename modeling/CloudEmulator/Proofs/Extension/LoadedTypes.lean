import CloudEmulator.Proofs.Extension.Acceptance

/-!
# One extension for each type with a hook

A load goes over the types of a script more than once: to find those with a hook, to evaluate
their selectors and to make their extensions. No type is lost, doubled or mixed up with another
on the way. What comes out is one extension for each stem that has a hook among the functions,
found by the id that its type gives, and nothing for the other functions of the script.
-/

namespace CloudEmulator.Extension

open Declaration (ofStem)
open Fallible (bind_eq_ok pure_eq_ok)
open Script (Function Program Value)

variable {clocks : Clocks} {catalog : OperationCatalog} {program : Program} {d : Declaration}
  {e e' : Extension} {es : List Extension} {stem other part : String}

section Types

/-- What an extension stores for a hook of its type: the name of the function, exactly where
the script has one for it. -/
def StoresHook (program : Program) (stem part : String) (stored : Option String) : Prop :=
  ∀ name, stored = some name ↔ Provides program stem part ∧ name = called stem part

/-- The id of the extension is what the accessor of the type gives when it sees the first
state; the extension keeps what the accessor leaves of that state. -/
def Begun (clocks : Clocks) (program : Program) (stem : String) (e : Extension) : Prop :=
  ∃ first, Starts clocks program stem first ∧
    (program.call (clocks.id stem) (called stem "id") [] (some first)).result =
      .ok (.str e.id) ∧
    e.state = (program.call (clocks.id stem) (called stem "id") [] (some first)).this.getD first

/-- The extension that a load makes of the type with the stem. -/
structure LoadedFor (clocks : Clocks) (program : Program) (stem : String) (e : Extension) :
    Prop where
  typeName : e.typeName = reported stem
  selector : Selects clocks program stem e.selector
  begun : Begun clocks program stem e
  hooks : ∃ request response, e.hooks = .script program request response ∧
    StoresHook program stem "request_hook" request ∧
    StoresHook program stem "response_hook" response
  clock : e.clock = clocks.hooks stem

/-- There is one thing to store for a hook. -/
theorem StoresHook.unique {stored stored' : Option String}
    (h : StoresHook program stem part stored) (h' : StoresHook program stem part stored') :
    stored = stored' :=
  Option.ext fun name => (h name).trans (h' name).symm

/-- A function lists one selector. -/
theorem Selects.unique {selector selector' : List String}
    (h : Selects clocks program stem selector) (h' : Selects clocks program stem selector') :
    selector = selector' := by
  obtain ⟨items, hitems, -, hmem⟩ := h.listed
  obtain ⟨items', hitems', -, hmem'⟩ := h'.listed
  obtain rfl : items = items' := by simpa using hitems.symm.trans hitems'
  exact h.ascending.eq_of_mem_iff h'.ascending fun entry => (hmem entry).trans (hmem' entry).symm

/-- A type has one first state. -/
theorem Starts.unique {first first' : Value} (h : Starts clocks program stem first)
    (h' : Starts clocks program stem first') : first = first' :=
  Except.ok.inj ((initialState_eq_ok.mpr h).symm.trans (initialState_eq_ok.mpr h'))

/-- A type determines its extension. -/
theorem LoadedFor.unique (h : LoadedFor clocks program stem e)
    (h' : LoadedFor clocks program stem e') : e = e' := by
  obtain ⟨first, hfirst, hid, hstate⟩ := h.begun
  obtain ⟨first', hfirst', hid', hstate'⟩ := h'.begun
  obtain rfl := hfirst.unique hfirst'
  obtain ⟨request, response, hhooks, hrequest, hresponse⟩ := h.hooks
  obtain ⟨request', response', hhooks', hrequest', hresponse'⟩ := h'.hooks
  have hids : e.id = e'.id := Value.str.inj (Except.ok.inj (hid.symm.trans hid'))
  have hsame : e.hooks = e'.hooks := by
    rw [hhooks, hhooks', hrequest.unique hrequest', hresponse.unique hresponse']
  have htypes := h.typeName.trans h'.typeName.symm
  have hselectors := h.selector.unique h'.selector
  have hstates := hstate.trans hstate'.symm
  have hclocks := h.clock.trans h'.clock.symm
  cases e
  cases e'
  rw [Extension.mk.injEq]
  exact ⟨hids, htypes, hselectors, hsame, hstates, hclocks⟩

/-- An extension is that of one type, if the type has a hook: a stored hook tells the stem. -/
theorem LoadedFor.stem_eq (h : LoadedFor clocks program stem e)
    (h' : LoadedFor clocks program other e) (hhooked : Hooked program stem) : other = stem := by
  obtain ⟨request, response, hhooks, hrequest, hresponse⟩ := h.hooks
  obtain ⟨request', response', hhooks', hrequest', hresponse'⟩ := h'.hooks
  obtain ⟨-, rfl, rfl⟩ := Hooks.script.inj (hhooks.symm.trans hhooks')
  rcases hhooked with hprovides | hprovides
  · have hstored := (hrequest _).mpr ⟨hprovides, rfl⟩
    exact (stem_eq_of_called ((hrequest' _).mp hstored).2).symm
  · have hstored := (hresponse _).mpr ⟨hprovides, rfl⟩
    exact (stem_eq_of_called ((hresponse' _).mp hstored).2).symm

end Types

section Making

/-- Each of the types in turn has its extension among those that come out, with those that were
there. The induction is on the types. -/
theorem exists_mem_of_instantiateAll {sofar : List Extension}
    {selected : List (Declaration × List String)}
    (h : instantiateAll clocks program sofar selected = .ok es) :
    (∀ e ∈ sofar, e ∈ es) ∧
      ∀ s ∈ selected, ∃ e ∈ es, instantiate clocks program s.1 s.2 = .ok e := by
  induction selected generalizing sofar with
  | nil =>
    obtain rfl := Except.ok.inj h
    exact ⟨fun _ he => he, nofun⟩
  | cons s selected ih =>
    obtain ⟨made, hmade, h⟩ := bind_eq_ok.mp h
    split at h
    next => cases h
    next =>
      obtain ⟨hbefore, hlater⟩ := ih h
      refine ⟨fun e he => hbefore e (mem_insertById.mpr (.inr he)), ?_⟩
      exact List.forall_mem_cons.mpr ⟨⟨made, hbefore made (mem_insertById.mpr (.inl rfl)), hmade⟩,
        hlater⟩

/-- Each type of a script that loads, if it has a hook, has its extension. -/
theorem exists_mem_madeFrom (h : ofProgram clocks catalog program = .ok es)
    (hhooked : Hooked program stem) :
    ∃ e ∈ es, MadeFrom clocks catalog program (ofStem program.functions stem) e := by
  have hd := hooked_iff.mp hhooked
  obtain ⟨-, selected, hselected, -, hmade⟩ := ofProgram_eq_ok.mp h
  obtain ⟨s, hs, hexamined⟩ := Fallible.exists_mem_of_mapM hselected hd
  obtain ⟨hchecked, selector, hselector, rfl⟩ := examine_eq_ok.mp hexamined
  obtain ⟨e, he, hinstantiated⟩ := (exists_mem_of_instantiateAll hmade).2 _ hs
  exact ⟨e, he, hd, hchecked, selector, hselector, hinstantiated⟩

/-- Each extension of a script that loads is made from the type of a stem with a hook. -/
theorem exists_hooked_madeFrom (h : ofProgram clocks catalog program = .ok es) (he : e ∈ es) :
    ∃ stem, Hooked program stem ∧
      MadeFrom clocks catalog program (ofStem program.functions stem) e := by
  obtain ⟨d, hfrom⟩ := exists_madeFrom h he
  have hstem := (mem_extensionTypes_iff.mp hfrom.known).1
  exact ⟨d.stem, hooked_iff.mpr (hstem ▸ hfrom.known), hstem ▸ hfrom⟩

/-- What the loader makes of a type is the extension of the type. -/
theorem MadeFrom.loadedFor
    (h : MadeFrom clocks catalog program (ofStem program.functions stem) e) :
    LoadedFor clocks program stem e := by
  obtain ⟨selector, hselector, hmade⟩ := h.instantiated
  obtain ⟨⟨first, hfirst, hid, hstate⟩, -, htype, rfl, hhooks, hclock⟩ :=
    Instantiated.of_eq_ok hmade
  rw [functionName_ofStem] at hid hstate
  have hstores (c : Capability) :
      StoresHook program stem c.name ((ofStem program.functions stem).stored c) := by
    intro name
    rw [← has_ofStem_iff, Declaration.stored, functionName_ofStem]
    cases (ofStem program.functions stem).has c <;> simp [eq_comm]
  exact ⟨htype.trans (typeName_ofStem _ _), (selects_of_evaluateSelector hselector).1,
    ⟨first, initialState_eq_ok.mp hfirst, hid, hstate⟩,
    ⟨_, _, hhooks, hstores .requestHook, hstores .responseHook⟩, hclock⟩

/-- In extensions that stand by ascending ids, each is found by its id. -/
theorem Ascending.find?_eq_some_iff {id : String} (h : Ascending es) :
    es.find? (·.id == id) = some e ↔ e ∈ es ∧ e.id = id := by
  constructor
  · intro hfind
    exact ⟨List.mem_of_find?_eq_some hfind, by simpa using List.find?_some hfind⟩
  · rintro ⟨he, rfl⟩
    have hnodup : (es.map (·.id)).Nodup := (List.pairwise_map.mpr h).imp String.ne_of_lt
    obtain ⟨found, hfound⟩ : ∃ found, es.find? (·.id == e.id) = some found := by
      rw [← Option.isSome_iff_exists, List.find?_isSome]
      exact ⟨e, he, BEq.rfl⟩
    have hid : found.id = e.id := by simpa using List.find?_some hfound
    obtain rfl := List.inj_on_of_nodup_map hnodup (List.mem_of_find?_eq_some hfound) he hid
    exact hfound

end Making

/-- What a load that succeeds makes of a script. -/
structure LoadedLaws (clocks : Clocks) (catalog : OperationCatalog) (program : Program)
    (es : List Extension) : Prop where
  /-- Each type with a hook has one extension. -/
  once : ∀ stem, Hooked program stem → ∃! e, e ∈ es ∧ LoadedFor clocks program stem e
  /-- Each extension is that of one type, which has a hook. -/
  only : ∀ e ∈ es, ∃ stem, Hooked program stem ∧
    ∀ other, LoadedFor clocks program other e ↔ other = stem
  /-- The ids ascend, so that no two extensions have the same. -/
  ascending : (es.map (·.id)).Pairwise (· < ·)
  /-- What is found by an id is the extension with it. -/
  keyed : ∀ id e, es.find? (·.id == id) = some e ↔ e ∈ es ∧ e.id = id
  /-- All of an id is matched by the pattern of ids. -/
  ids : ∀ e ∈ es, MatchesAll idText e.id
  /-- All that is selected can be. -/
  selectable : ∀ e ∈ es, ∀ entry ∈ e.selector, Selectable catalog entry

/-- A script that is read and loads keeps the laws of loaded scripts. -/
theorem loadedLaws_of_ofProgram (hmade : ofProgram clocks catalog program = .ok es) :
    LoadedLaws clocks catalog program es := by
  have hascending := ascending_of_ofProgram hmade
  refine ⟨?once, ?only, List.pairwise_map.mpr hascending,
    fun _ _ => hascending.find?_eq_some_iff, ?ids, ?selectable⟩
  case once =>
    intro stem hhooked
    obtain ⟨e, he, hfrom⟩ := exists_mem_madeFrom hmade hhooked
    exact ⟨e, ⟨he, hfrom.loadedFor⟩, fun e' he' => he'.2.unique hfrom.loadedFor⟩
  case only =>
    intro e he
    obtain ⟨stem, hhooked, hfrom⟩ := exists_hooked_madeFrom hmade he
    refine ⟨stem, hhooked, fun other => ⟨fun h => hfrom.loadedFor.stem_eq h hhooked, ?_⟩⟩
    rintro rfl
    exact hfrom.loadedFor
  case ids =>
    intro e he
    obtain ⟨stem, -, hfrom⟩ := exists_hooked_madeFrom hmade he
    obtain ⟨selector, -, hinstantiated⟩ := hfrom.instantiated
    exact checkId_eq_ok_iff.mp (Instantiated.of_eq_ok hinstantiated).accepted
  case selectable =>
    intro e he
    obtain ⟨stem, -, hfrom⟩ := exists_hooked_madeFrom hmade he
    obtain ⟨selector, hselector, hinstantiated⟩ := hfrom.instantiated
    rw [(Instantiated.of_eq_ok hinstantiated).selector]
    exact (selects_of_evaluateSelector hselector).2

/-- **One extension for each type with a hook.** A script that loads gives one extension for
each stem with a hook, and no others; it is found by the id that the type gives, and stores the
hooks that the type has. -/
theorem loadedLaws {source : String} (hload : ofSource clocks catalog source = .ok es) :
    ∃ program, Program.ofSource source = .ok program ∧
      LoadedLaws clocks catalog program es := by
  unfold ofSource at hload
  split at hload
  next => cases hload
  next program hprogram => exact ⟨program, hprogram, loadedLaws_of_ofProgram hload⟩

/-- A catalog with an operation that has a colon in its name. -/
def deepCatalog : OperationCatalog := .ofList ["s:G:D", "s:P"]

/-- A script of two types of the same name, another function, and a type without a hook. -/
def helpedSource : String :=
  "fn id() \x7b \"b\" \x7d fn selector() \x7b [\"s:P\", \"s:G:D\"] \x7d" ++
  "fn request_hook(request) \x7b \x7d fn helper() \x7b 1 \x7d" ++
  "fn default__id() \x7b \"A.9\" \x7d fn default__selector() \x7b [] \x7d" ++
  "fn default__response_hook(s, h, b) \x7b \x7d fn quiet__id() \x7b 2 \x7d"

/-- The laws of a script with more than its extensions. -/
theorem loadedLaws_helped :
    ∃ es, ofSource (.still ⟨0, 0⟩) deepCatalog helpedSource = .ok es ∧
      es.map (fun e => (e.id, e.typeName, e.selector)) =
        [("A.9", "default", []), ("b", "default", ["s:G:D", "s:P"])] ∧
      ∃ program, Program.ofSource helpedSource = .ok program ∧
        LoadedLaws (.still ⟨0, 0⟩) deepCatalog program es := by
  have hloaded : (ofSource (.still ⟨0, 0⟩) deepCatalog helpedSource).toOption.map
      (·.map fun e => (e.id, e.typeName, e.selector)) =
        some [("A.9", "default", []), ("b", "default", ["s:G:D", "s:P"])] := by
    decide +kernel
  obtain ⟨es, hes, hlist⟩ := Option.map_eq_some_iff.mp hloaded
  have hload := Fallible.toOption_eq_some.mp hes
  exact ⟨es, hload, hlist, loadedLaws hload⟩

end CloudEmulator.Extension
