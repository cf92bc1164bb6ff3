import CloudEmulator.Extension.Loader
import CloudEmulator.Proofs.Extension.Stems
import CloudEmulator.Proofs.Fallible

/-!
# Loaded extensions and their functions

Each extension that comes out of a load is made from one declared type of its script,
through the functions that the type names. Those that are called while loading are there;
a stored hook is there unless the script only has it under a bare name.
-/

namespace CloudEmulator

open Script (Clock Function Program Value)

/-- The script has a function of this name with so many parameters. -/
def Script.Program.Defines (program : Program) (name : String) (arity : Nat) : Prop :=
  ∃ f ∈ program.functions, f.name = name ∧ f.arity = arity

/-- A function is found exactly where the script has it. -/
theorem Script.Program.defines_iff {program : Program} {name : String} {arity : Nat} :
    program.Defines name arity ↔
      (Function.find? program.functions name arity).isSome = true := by
  simp [Defines, Function.find?]

/-- A call that gives a value is one of a function of the script. -/
theorem Script.Program.defines_of_call {program : Program} {clock : Clock} {name : String}
    {args : List Value} {this : Option Value} {v : Value}
    (h : (program.call clock name args this).result = .ok v) :
    program.Defines name args.length := by
  rw [defines_iff]
  cases hfind : Function.find? program.functions name args.length with
  | some f => rfl
  | none => simp [Script.Program.call, hfind] at h

namespace Extension

open Declaration (Belongs Declares bareName ofStem)
open Fallible (bind_eq_ok pure_eq_ok throw_ne_ok)

variable {clocks : Clocks} {catalog : OperationCatalog} {program : Program} {d : Declaration}
  {e : Extension} {stem : String} {error : LoadError}

/-- The hooks, each with the number of its parameters. -/
def hookArities : List (Capability × Nat) :=
  [(.requestHook, 1), (.responseHook, 3)]

/-- The function that is stored for a hook. -/
def Declaration.stored (d : Declaration) (c : Capability) : Option String :=
  if d.has c then some (d.functionName c) else none

/-- The extension is what the loader makes of a type of the script. -/
structure MadeFrom (clocks : Clocks) (catalog : OperationCatalog) (program : Program)
    (d : Declaration) (e : Extension) : Prop where
  known : d ∈ Declaration.extensionTypes program.functions
  checked : checkDeclaration d = .ok ()
  instantiated : ∃ selector, evaluateSelector clocks catalog program d = .ok selector ∧
    instantiate clocks program d selector = .ok e

/-- A type that passed the checks has an accessor for its id, and each hook it has with
the parameters that the hook is called with. -/
theorem hasArity_of_checked (h : checkDeclaration d = .ok ()) :
    d.hasArity .id 0 = true ∧
      ∀ hook ∈ hookArities, d.has hook.1 = true → d.hasArity hook.1 hook.2 = true := by
  unfold checkDeclaration at h
  cases hid : d.hasArity .id 0 with
  | false =>
    simp only [hid, Bool.not_false, if_true] at h
    split at h <;> cases h
  | true =>
    simp only [hid, Bool.not_true, Bool.false_eq_true, if_false] at h
    have hhooks : ∀ hook ∈ hookArities, (d.has hook.1 && !d.hasArity hook.1 hook.2) = false := by
      split at h
      case h_3 => cases h
      case h_4 => cases h
      all_goals
        obtain ⟨_, hloop, -⟩ := bind_eq_ok.mp h
        exact Fallible.forIn_checks_eq_ok.mp hloop
    refine ⟨rfl, fun hook hmem hhas => ?_⟩
    simpa [hhas] using hhooks hook hmem

/-- A selector that could be evaluated is a function of the script. -/
theorem defines_selector {selector : List String}
    (h : evaluateSelector clocks catalog program d = .ok selector) :
    program.Defines (d.functionName .selector) 0 := by
  unfold evaluateSelector at h
  cases hcall : (program.call (clocks.selector d.stem) (d.functionName .selector) []
      none).result with
  | ok v => exact Program.defines_of_call hcall
  | error stop =>
    simp only [hcall] at h
    split at h
    · cases h
    · split at h <;> cases h

/-- The first state of a type is what a function of the script gives, if the type has
an initializer. -/
theorem defines_init {state : Value} (h : initialState clocks program d = .ok state)
    (hinit : d.has .init = true) : program.Defines (d.functionName .init) 0 := by
  unfold initialState at h
  rw [if_pos hinit] at h
  cases hcall : (program.call (clocks.init d.stem) (d.functionName .init) [] none).result with
  | ok v => exact Program.defines_of_call hcall
  | error stop =>
    rw [hcall] at h
    cases h

/-- The first state of the type with the stem: what its initializer gives, or an empty map where
that is nothing or there is no initializer. -/
inductive Starts (clocks : Clocks) (program : Program) (stem : String) : Value → Prop where
  | absent (lacks : ¬ Provides program stem "init") : Starts clocks program stem (.map [])
  | nothing (provides : Provides program stem "init")
      (gives : (program.call (clocks.init stem) (called stem "init") [] none).result =
        .ok .unit) : Starts clocks program stem (.map [])
  | given {v : Value} (provides : Provides program stem "init")
      (gives : (program.call (clocks.init stem) (called stem "init") [] none).result = .ok v)
      (something : v ≠ .unit) : Starts clocks program stem v

/-- The initializer of the type with the stem stops. -/
structure InitFails (clocks : Clocks) (program : Program) (stem : String) : Prop where
  provides : Provides program stem "init"
  stops : ∃ stop,
    (program.call (clocks.init stem) (called stem "init") [] none).result = .error stop

/-- The first state of a type, by its stem. -/
theorem initialState_ofStem (clocks : Clocks) (program : Program) (stem : String) :
    initialState clocks program (ofStem program.functions stem) =
      if Provides program stem "init" then
        match (program.call (clocks.init stem) (called stem "init") [] none).result with
        | .error _ => .error (.failed (reported stem))
        | .ok .unit => .ok (.map [])
        | .ok v => .ok v
      else .ok (.map []) := by
  have hstem : (ofStem program.functions stem).stem = stem := rfl
  unfold initialState
  rw [functionName_ofStem, typeName_ofStem, hstem]
  by_cases hinit : Provides program stem "init"
  · rw [if_pos (has_ofStem_iff.mpr hinit), if_pos hinit]
    rfl
  · rw [if_neg (mt has_ofStem_iff.mp hinit), if_neg hinit]

/-- The first state of a type is the one for its stem. -/
theorem initialState_eq_ok {state : Value} :
    initialState clocks program (ofStem program.functions stem) = .ok state ↔
      Starts clocks program stem state := by
  rw [initialState_ofStem]
  constructor
  · intro h
    split at h
    next hinit =>
      split at h
      next => cases h
      next hcall =>
        cases h
        exact .nothing hinit hcall
      next hsome hcall =>
        cases h
        exact .given hinit hcall hsome
    next hinit =>
      cases h
      exact .absent hinit
  · intro h
    cases h with
    | absent lacks => rw [if_neg lacks]
    | nothing provides gives => rw [if_pos provides, gives]
    | given provides gives something =>
      rw [if_pos provides, gives]
      cases state with
      | unit => exact absurd rfl something
      | _ => rfl

/-- A type has no first state where its initializer stops. -/
theorem initialState_eq_error :
    initialState clocks program (ofStem program.functions stem) = .error error ↔
      InitFails clocks program stem ∧ error = .failed (reported stem) := by
  rw [initialState_ofStem]
  constructor
  · intro h
    split at h
    next hinit =>
      split at h
      next stop hcall =>
        cases h
        exact ⟨⟨hinit, stop, hcall⟩, rfl⟩
      next => cases h
      next => cases h
    next => cases h
  · rintro ⟨⟨provides, stop, stops⟩, rfl⟩
    rw [if_pos provides, stops]

/-- The extension is that of the type with the selector. It keeps what the accessor of its id
leaves of the first state. -/
structure Instantiated (clocks : Clocks) (program : Program) (d : Declaration)
    (selector : List String) (e : Extension) : Prop where
  begun : ∃ first, initialState clocks program d = .ok first ∧
    (program.call (clocks.id d.stem) (d.functionName .id) [] (some first)).result =
      .ok (.str e.id) ∧
    e.state = (program.call (clocks.id d.stem) (d.functionName .id) [] (some first)).this.getD
      first
  accepted : checkId d.typeName e.id = .ok ()
  typeName : e.typeName = d.typeName
  selector : e.selector = selector
  hooks : e.hooks = .script program (d.stored .requestHook) (d.stored .responseHook)
  clock : e.clock = clocks.hooks d.stem

/-- What comes out of a type and a selector is their extension. -/
theorem Instantiated.of_eq_ok {selector : List String}
    (h : instantiate clocks program d selector = .ok e) :
    Instantiated clocks program d selector e := by
  obtain ⟨first, hfirst, h⟩ := bind_eq_ok.mp h
  cases hcall : (program.call (clocks.id d.stem) (d.functionName .id) [] (some first)).result with
  | error stop =>
    simp only [hcall] at h
    cases h
  | ok v =>
    simp only [hcall] at h
    cases v with
    | str id =>
      obtain ⟨_, hid, h⟩ := bind_eq_ok.mp h
      obtain rfl := pure_eq_ok.mp h
      exact ⟨⟨first, hfirst, hcall, rfl⟩, hid, rfl, rfl, rfl, rfl⟩
    | _ => cases h

/-- An extension that was made has its id from a function of the script, and the hooks of
its type. -/
theorem instantiate_eq_ok {selector : List String}
    (h : instantiate clocks program d selector = .ok e) :
    (d.has .init = true → program.Defines (d.functionName .init) 0) ∧
      program.Defines (d.functionName .id) 0 ∧ e.typeName = d.typeName ∧
      e.hooks = .script program (d.stored .requestHook) (d.stored .responseHook) := by
  have hmade := Instantiated.of_eq_ok h
  obtain ⟨first, hfirst, hcall, -⟩ := hmade.begun
  exact ⟨defines_init hfirst, Program.defines_of_call hcall, hmade.typeName, hmade.hooks⟩

/-- An insertion by id adds one extension. -/
theorem mem_insertById {x : Extension} {es : List Extension} :
    x ∈ insertById e es ↔ x = e ∨ x ∈ es := by
  induction es with
  | nil => simp [insertById]
  | cons y es ih =>
    unfold insertById
    split
    · rw [List.mem_cons]
    · rw [List.mem_cons, List.mem_cons, ih]
      tauto

/-- What comes out of the types in turn was there before or is made from one of them. -/
theorem made_of_mem_instantiateAll {sofar es : List Extension}
    {selected : List (Declaration × List String)}
    (h : instantiateAll clocks program sofar selected = .ok es) (he : e ∈ es) :
    e ∈ sofar ∨ ∃ s ∈ selected, instantiate clocks program s.1 s.2 = .ok e := by
  induction selected generalizing sofar with
  | nil =>
    obtain rfl := Except.ok.inj h
    exact .inl he
  | cons s selected ih =>
    obtain ⟨made, hmade, h⟩ := bind_eq_ok.mp h
    split at h
    next => cases h
    next =>
      rcases ih h with hbefore | ⟨s', hs', hlater⟩
      · rcases mem_insertById.mp hbefore with rfl | hbefore
        · exact .inr ⟨s, List.mem_cons_self, hmade⟩
        · exact .inl hbefore
      · exact .inr ⟨s', List.mem_cons_of_mem _ hs', hlater⟩

/-- Check a type, and evaluate its selector. -/
def examine (clocks : Clocks) (catalog : OperationCatalog) (program : Program)
    (d : Declaration) : Except LoadError (Declaration × List String) := do
  checkDeclaration d
  return (d, ← evaluateSelector clocks catalog program d)

/-- What is examined passed the checks, and has the selector that it evaluates to. -/
theorem examine_eq_ok {s : Declaration × List String} :
    examine clocks catalog program d = .ok s ↔ checkDeclaration d = .ok () ∧
      ∃ selector, evaluateSelector clocks catalog program d = .ok selector ∧
        s = (d, selector) := by
  simp only [examine, bind_eq_ok, pure_eq_ok]
  constructor
  · rintro ⟨_, hchecked, selector, hselector, rfl⟩
    exact ⟨hchecked, selector, hselector, rfl⟩
  · rintro ⟨hchecked, selector, hselector, rfl⟩
    exact ⟨(), hchecked, selector, hselector, rfl⟩

/-- The stages of a load: a script needs a type, all types are examined, the file runs, and
then the extensions are made. -/
theorem ofProgram_eq (clocks : Clocks) (catalog : OperationCatalog) (program : Program) :
    ofProgram clocks catalog program =
      if Declaration.extensionTypes program.functions = [] then .error .noExtensions
      else (Declaration.extensionTypes program.functions).mapM (examine clocks catalog program) >>=
        fun selected => match (program.runFile clocks.file).result with
          | .error _ => .error (.failed Declaration.defaultType)
          | .ok _ => instantiateAll clocks program [] selected := by
  unfold ofProgram
  cases Declaration.extensionTypes program.functions with
  | nil => rfl
  | cons d ds => rfl

/-- A script loads exactly where it passes all stages. -/
theorem ofProgram_eq_ok {es : List Extension} : ofProgram clocks catalog program = .ok es ↔
    Declaration.extensionTypes program.functions ≠ [] ∧ ∃ selected,
      (Declaration.extensionTypes program.functions).mapM (examine clocks catalog program) =
        .ok selected ∧
      (∃ v, (program.runFile clocks.file).result = .ok v) ∧
      instantiateAll clocks program [] selected = .ok es := by
  rw [ofProgram_eq]
  split
  next hnone => simp [hnone]
  next hsome =>
    rw [bind_eq_ok]
    refine ⟨?_, ?_⟩
    · rintro ⟨selected, hselected, hmade⟩
      cases hfile : (program.runFile clocks.file).result with
      | error stop =>
        rw [hfile] at hmade
        cases hmade
      | ok v =>
        rw [hfile] at hmade
        exact ⟨hsome, selected, hselected, ⟨v, rfl⟩, hmade⟩
    · rintro ⟨-, selected, hselected, ⟨v, hfile⟩, hmade⟩
      refine ⟨selected, hselected, ?_⟩
      rw [hfile]
      exact hmade

/-- A file loads exactly where it is the text of a script that loads. -/
theorem ofFile_eq_ok {contents : Option Bytes} {es : List Extension} :
    ofFile clocks catalog contents = .ok es ↔ ∃ source program,
      contents.bind Utf8.decode? = some source ∧ Program.ofSource source = .ok program ∧
      ofProgram clocks catalog program = .ok es := by
  unfold ofFile
  cases contents.bind Utf8.decode? with
  | none => simp
  | some source =>
    cases hprogram : Program.ofSource source with
    | error fault => simp [ofSource, hprogram]
    | ok program => simp [ofSource, hprogram]

/-- Each extension of a script that loads is made from one of its types. -/
theorem exists_madeFrom {es : List Extension} (h : ofProgram clocks catalog program = .ok es)
    (he : e ∈ es) : ∃ d, MadeFrom clocks catalog program d e := by
  obtain ⟨-, selected, hselected, -, hmade⟩ := ofProgram_eq_ok.mp h
  rcases made_of_mem_instantiateAll hmade he with hnone | ⟨s, hs, hmade⟩
  · cases hnone
  · obtain ⟨d, hd, hs⟩ := Fallible.exists_of_mem_mapM hselected hs
    obtain ⟨hchecked, selector, hselector, rfl⟩ := examine_eq_ok.mp hs
    exact ⟨d, hd, hchecked, selector, hselector, hmade⟩

/-- The extensions stand by ascending ids, each id once. -/
def Ascending (es : List Extension) : Prop :=
  es.Pairwise fun x y => x.id < y.id

/-- An extension with a new id finds its place. -/
theorem Ascending.insertById {es : List Extension} (h : Ascending es)
    (hnew : ∀ x ∈ es, x.id ≠ e.id) : Ascending (insertById e es) := by
  induction es with
  | nil => exact List.pairwise_singleton _ _
  | cons x rest ih =>
    obtain ⟨hx, hrest⟩ := List.pairwise_cons.mp h
    rw [Extension.insertById]
    split
    · next hbefore =>
      refine List.pairwise_cons.mpr ⟨?_, h⟩
      intro y hy
      rcases List.mem_cons.mp hy with rfl | hy
      · exact hbefore
      · exact String.lt_trans hbefore (hx y hy)
    · next hbehind =>
      have hxe : x.id < e.id :=
        Std.lt_of_le_of_ne (String.not_lt.mp hbehind) (hnew x List.mem_cons_self)
      have hlater := ih hrest fun y hy => hnew y (List.mem_cons_of_mem _ hy)
      refine List.pairwise_cons.mpr ⟨?_, hlater⟩
      intro y hy
      rcases mem_insertById.mp hy with rfl | hy
      · exact hxe
      · exact hx y hy

/-- Extensions that are made in turn stand by ascending ids. The induction is on the types;
each new id is compared with all before. -/
theorem Ascending.instantiateAll {selected : List (Declaration × List String)}
    {sofar es : List Extension} (h : Ascending sofar)
    (hmade : instantiateAll clocks program sofar selected = .ok es) : Ascending es := by
  induction selected generalizing sofar with
  | nil =>
    obtain rfl := Except.ok.inj hmade
    exact h
  | cons s selected ih =>
    obtain ⟨made, -, hmade⟩ := bind_eq_ok.mp hmade
    split at hmade
    next => cases hmade
    next hnew =>
      refine ih (h.insertById ?_) hmade
      simpa using hnew

/-- The extensions of a script stand by ascending ids. -/
theorem ascending_of_ofProgram {es : List Extension}
    (h : ofProgram clocks catalog program = .ok es) : Ascending es := by
  obtain ⟨-, selected, -, -, hmade⟩ := ofProgram_eq_ok.mp h
  have hnone : Ascending [] := List.Pairwise.nil
  exact hnone.instantiateAll hmade

/-- The extensions of a file stand by ascending ids. -/
theorem ascending_of_ofFile {contents : Option Bytes} {es : List Extension}
    (h : ofFile clocks catalog contents = .ok es) : Ascending es := by
  obtain ⟨source, program, -, -, hprogram⟩ := ofFile_eq_ok.mp h
  exact ascending_of_ofProgram hprogram

end Extension

end CloudEmulator
