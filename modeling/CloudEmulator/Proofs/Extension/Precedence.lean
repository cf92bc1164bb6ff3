import CloudEmulator.Proofs.Extension.Acceptance
import CloudEmulator.Proofs.Script.Lookup
import CloudEmulator.Proofs.Script.Signatures

/-!
# Which failure of a load is reported

A script may be wrong in many ways at once. The stages of a load, the types within a stage and
the checks of a type stand in a fixed order, and the first failure in this order is the result.
What each check looks for is told from the functions of the script alone. What the file itself
does when it runs comes behind all checks of the types.
-/

namespace CloudEmulator.Extension

open Declaration (ofStem extensionTypes)
open Fallible (bind_eq_ok bind_eq_error pure_eq_ok fault?_eq_some)
open Script (Function Program Value)

variable {clocks clocks' : Clocks} {catalog : OperationCatalog} {program program' : Program}
  {d : Declaration} {stem : String} {stems taken : List String} {error : LoadError}

section Reasons

/-- What is checked of a type. -/
inductive Check where
  | init | id | requestHook | responseHook | selector
  deriving DecidableEq, Repr

/-- The checks of a type in their order. -/
def Check.all : List Check :=
  [init, id, requestHook, responseHook, selector]

theorem Check.mem_all (check : Check) : check ∈ all := by
  cases check <;> decide

/-- What a check of the type with the stem finds wrong. -/
inductive Check.Finds (clocks : Clocks) (catalog : OperationCatalog) (program : Program)
    (stem : String) : Check → LoadError → Prop where
  | initializers (several : 2 ≤ (functionsFor program stem "init").length) :
      Finds clocks catalog program stem .init (.tooManyInitializers (reported stem))
  | parameters {f : Function} (single : functionsFor program stem "init" = [f])
      (takes : f.params ≠ []) :
      Finds clocks catalog program stem .init (.initializerParameters (reported stem) f.params)
  | id (lacks : ¬ ProvidesWith program stem "id" 0) :
      Finds clocks catalog program stem .id (.missingId (reported stem))
  | requestHook (provides : Provides program stem "request_hook")
      (lacks : ¬ ProvidesWith program stem "request_hook" 1) :
      Finds clocks catalog program stem .requestHook
        (.hookParameters (reported stem) (called stem "request_hook") 1)
  | responseHook (provides : Provides program stem "response_hook")
      (lacks : ¬ ProvidesWith program stem "response_hook" 3) :
      Finds clocks catalog program stem .responseHook
        (.hookParameters (reported stem) (called stem "response_hook") 3)
  | selector {error : LoadError} (fails : SelectorFails clocks catalog program stem error) :
      Finds clocks catalog program stem .selector error

/-- The type with the stem passes all checks. -/
def Passes (clocks : Clocks) (catalog : OperationCatalog) (program : Program) (stem : String) :
    Prop :=
  ∀ (check : Check) (error : LoadError), ¬ check.Finds clocks catalog program stem error

/-- A check of the type with the stem finds something, and the checks before it do not. -/
def FirstFault (clocks : Clocks) (catalog : OperationCatalog) (program : Program) (stem : String)
    (error : LoadError) : Prop :=
  ∃ before check after, Check.all = before ++ check :: after ∧
    check.Finds clocks catalog program stem error ∧
    ∀ c ∈ before, ∀ e, ¬ c.Finds clocks catalog program stem e

/-- What the accessor of the id gives when it sees a state. -/
def identified (clocks : Clocks) (program : Program) (stem : String) (state : Value) :
    Except Script.Stop Value :=
  (program.call (clocks.id stem) (called stem "id") [] (some state)).result

/-- The type with the stem comes to its first state, and from there to its id. -/
def Gives (clocks : Clocks) (program : Program) (stem id : String) : Prop :=
  ∃ state, Starts clocks program stem state ∧
    identified clocks program stem state = .ok (.str id) ∧ MatchesAll idText id

/-- Why a type does not come from a state to its id. -/
inductive IdFails (clocks : Clocks) (program : Program) (stem : String) (state : Value) :
    LoadError → Prop where
  | stopped {stop : Script.Stop}
      (stops : identified clocks program stem state = .error stop) :
      IdFails clocks program stem state (.failed (reported stem))
  | notText {v : Value} (gives : identified clocks program stem state = .ok v)
      (noText : ∀ id, v ≠ .str id) :
      IdFails clocks program stem state (.invalidId (reported stem) (.notText v.typeName))
  | empty (gives : identified clocks program stem state = .ok (.str "")) :
      IdFails clocks program stem state (.invalidId (reported stem) .empty)
  | refused {id : String} (gives : identified clocks program stem state = .ok (.str id))
      (some : id ≠ "") (unmatched : ¬ MatchesAll idText id) :
      IdFails clocks program stem state (.invalidId (reported stem) (.badCharacters id))

/-- Why no extension is made of the type with the stem when some ids are taken. -/
inductive Unmade (clocks : Clocks) (program : Program) (taken : List String) (stem : String) :
    LoadError → Prop where
  | init (fails : InitFails clocks program stem) :
      Unmade clocks program taken stem (.failed (reported stem))
  | id {state : Value} {error : LoadError} (starts : Starts clocks program stem state)
      (fails : IdFails clocks program stem state error) : Unmade clocks program taken stem error
  | duplicate {id : String} (gives : Gives clocks program stem id) (isTaken : id ∈ taken) :
      Unmade clocks program taken stem (.invalidId (reported stem) (.duplicate id))

/-- Why a script does not load. -/
inductive Fails (clocks : Clocks) (catalog : OperationCatalog) (source : String) :
    LoadError → Prop where
  | unread {fault : Script.SyntaxFault} (reads : Program.ofSource source = .error fault) :
      Fails clocks catalog source (.notScript fault)
  | empty {program : Program} (reads : Program.ofSource source = .ok program)
      (hookless : ∀ stem, ¬ Hooked program stem) : Fails clocks catalog source .noExtensions
  | checked {program : Program} {front later : List String} {stem : String} {error : LoadError}
      (reads : Program.ofSource source = .ok program)
      (stems : HookedStems program (front ++ stem :: later))
      (before : ∀ x ∈ front, Passes clocks catalog program x)
      (fails : FirstFault clocks catalog program stem error) : Fails clocks catalog source error
  | body {program : Program} {stop : Script.Stop} {stem : String}
      (reads : Program.ofSource source = .ok program) (hooked : Hooked program stem)
      (passes : ∀ x, Hooked program x → Passes clocks catalog program x)
      (stops : (program.runFile clocks.file).result = .error stop) :
      Fails clocks catalog source (.failed "default")
  | unmade {program : Program} {v : Value} {front later ids : List String} {stem : String}
      {error : LoadError} (reads : Program.ofSource source = .ok program)
      (passes : ∀ x, Hooked program x → Passes clocks catalog program x)
      (runs : (program.runFile clocks.file).result = .ok v)
      (stems : HookedStems program (front ++ stem :: later))
      (before : List.Forall₂ (Gives clocks program) front ids) (distinct : ids.Nodup)
      (fails : Unmade clocks program ids stem error) : Fails clocks catalog source error

end Reasons

section Checks

/-- What is wrong with the initializers of a type. -/
def initializerFault? (typeName : String) : List (List String) → Option LoadError
  | [] | [[]] => none
  | [params] => some (.initializerParameters typeName params)
  | _ => some (.tooManyInitializers typeName)

/-- What is wrong with a hook of a type. -/
def hookFault? (d : Declaration) (hook : Capability) (expected : Nat) : Option LoadError :=
  if d.has hook && !d.hasArity hook expected then
    some (.hookParameters d.typeName (d.functionName hook) expected)
  else none

/-- What a check of a declared type finds, on its own. -/
def Check.fault? (clocks : Clocks) (catalog : OperationCatalog) (program : Program)
    (d : Declaration) : Check → Option LoadError
  | init => initializerFault? d.typeName (d.overloads .init)
  | id => if d.hasArity .id 0 then none else some (.missingId d.typeName)
  | requestHook => hookFault? d .requestHook 1
  | responseHook => hookFault? d .responseHook 3
  | selector => Fallible.fault? (evaluateSelector clocks catalog program d)

/-- Fail where there is a fault. -/
def refuse (fault : Option LoadError) : Except LoadError Unit :=
  match fault with
  | some error => .error error
  | none => .ok ()

theorem fault?_refuse_bind {α : Type} (fault : Option LoadError) (f : Unit → Except LoadError α) :
    Fallible.fault? (refuse fault >>= f) = fault.or (Fallible.fault? (f ())) := by
  cases fault <;> rfl

/-- The hooks of a type are checked one after the other. -/
theorem checkHooks_eq (d : Declaration) :
    (do for (hook, expected) in [(Capability.requestHook, 1), (Capability.responseHook, 3)] do
          if d.has hook && !d.hasArity hook expected then
            throw (.hookParameters d.typeName (d.functionName hook) expected) :
      Except LoadError Unit) =
    (do refuse (hookFault? d .requestHook 1); refuse (hookFault? d .responseHook 3)) := by
  simp only [List.forIn_cons, List.forIn_nil, hookFault?]
  split
  · rfl
  · split <;> rfl

/-- The checks of the functions of a type stand one after the other. -/
theorem checkDeclaration_eq (d : Declaration) : checkDeclaration d = (do
    refuse (initializerFault? d.typeName (d.overloads .init))
    refuse (if d.hasArity .id 0 then none else some (.missingId d.typeName))
    refuse (hookFault? d .requestHook 1)
    refuse (hookFault? d .responseHook 3)) := by
  have hhooks := checkHooks_eq d
  unfold checkDeclaration
  generalize d.overloads .init = initializers
  -- the cases are those of the initializers: none, one without parameters, or a wrong set
  rcases initializers with _ | ⟨_ | ⟨first, params⟩, _ | ⟨more, rest⟩⟩
  · cases d.hasArity .id 0
    · rfl
    · exact hhooks
  · cases d.hasArity .id 0
    · rfl
    · exact hhooks
  · rfl
  · rfl
  · rfl

/-- A type fails with the first fault that a check finds. -/
theorem fault?_examine (clocks : Clocks) (catalog : OperationCatalog) (program : Program)
    (d : Declaration) : Fallible.fault? (examine clocks catalog program d) =
      Check.all.findSome? (·.fault? clocks catalog program d) := by
  have hselector :
      Fallible.fault? (do return (d, ← evaluateSelector clocks catalog program d)) =
        Check.selector.fault? clocks catalog program d := by
    unfold Check.fault?
    cases evaluateSelector clocks catalog program d <;> rfl
  have hcons (check : Check) (checks : List Check) :
      (check :: checks).findSome? (·.fault? clocks catalog program d) =
        (check.fault? clocks catalog program d).or
          (checks.findSome? (·.fault? clocks catalog program d)) := by
    rw [List.findSome?_cons]
    cases check.fault? clocks catalog program d <;> rfl
  rw [examine, checkDeclaration_eq]
  simp only [bind_assoc, fault?_refuse_bind, hselector]
  simp only [Check.all, hcons, List.findSome?_nil, Option.or_none]
  rfl

/-- Initializers are wrong where there are several, or where the only one takes parameters. -/
theorem initializerFault?_eq_some {typeName : String} {fs : List Function} :
    initializerFault? typeName (fs.map (·.params)) = some error ↔
      (2 ≤ fs.length ∧ error = .tooManyInitializers typeName) ∨
        ∃ f, fs = [f] ∧ f.params ≠ [] ∧ error = .initializerParameters typeName f.params := by
  rcases fs with _ | ⟨f, _ | ⟨g, fs⟩⟩
  · simp [initializerFault?]
  · cases hparams : f.params with
    | nil => simp [initializerFault?, hparams]
    | cons => simp [initializerFault?, hparams, eq_comm]
  · have hfault : initializerFault? typeName ((f :: g :: fs).map (·.params)) =
        some (.tooManyInitializers typeName) := by
      rw [List.map_cons]
      cases f.params <;> rfl
    rw [hfault, Option.some.injEq, eq_comm]
    simp

/-- A hook is wrong where the type has it, and not with what it is called with. -/
theorem hookFault?_ofStem_eq_some {hook : Capability} {expected : Nat} :
    hookFault? (ofStem program.functions stem) hook expected = some error ↔
      Provides program stem hook.name ∧ ¬ ProvidesWith program stem hook.name expected ∧
        error = .hookParameters (reported stem) (called stem hook.name) expected := by
  have hcondition : ((ofStem program.functions stem).has hook &&
      !(ofStem program.functions stem).hasArity hook expected) = true ↔
        Provides program stem hook.name ∧ ¬ ProvidesWith program stem hook.name expected := by
    rw [Bool.and_eq_true, Bool.not_eq_true', ← Bool.not_eq_true, has_ofStem_iff,
      hasArity_ofStem_iff]
  rw [hookFault?, typeName_ofStem, functionName_ofStem, Option.ite_none_right_eq_some, hcondition,
    Option.some.injEq, and_assoc, eq_comm (a := error)]

/-- What a check of a type finds is what it finds of the functions for the stem. -/
theorem Check.fault?_eq_some {check : Check} :
    check.fault? clocks catalog program (ofStem program.functions stem) = some error ↔
      check.Finds clocks catalog program stem error := by
  cases check with
  | init =>
    rw [Check.fault?, typeName_ofStem, overloads_ofStem]
    refine initializerFault?_eq_some.trans ⟨?_, fun h => ?_⟩
    · rintro (⟨several, rfl⟩ | ⟨f, single, takes, rfl⟩)
      · exact .initializers several
      · exact .parameters single takes
    · cases h with
      | initializers several => exact .inl ⟨several, rfl⟩
      | parameters single takes => exact .inr ⟨_, single, takes, rfl⟩
  | id =>
    rw [Check.fault?, typeName_ofStem, Option.ite_none_left_eq_some, hasArity_ofStem_iff,
      Option.some.injEq]
    constructor
    · rintro ⟨lacks, rfl⟩
      exact .id lacks
    · intro h
      cases h with
      | id lacks => exact ⟨lacks, rfl⟩
  | requestHook =>
    refine hookFault?_ofStem_eq_some.trans ⟨?_, fun h => ?_⟩
    · rintro ⟨provides, lacks, rfl⟩
      exact .requestHook provides lacks
    · cases h with
      | requestHook provides lacks => exact ⟨provides, lacks, rfl⟩
  | responseHook =>
    refine hookFault?_ofStem_eq_some.trans ⟨?_, fun h => ?_⟩
    · rintro ⟨provides, lacks, rfl⟩
      exact .responseHook provides lacks
    · cases h with
      | responseHook provides lacks => exact ⟨provides, lacks, rfl⟩
  | selector =>
    refine (Fallible.fault?_eq_some.trans evaluateSelector_eq_error).trans ⟨.selector, fun h => ?_⟩
    cases h with
    | selector fails => exact fails

/-- A check that finds nothing. -/
theorem Check.fault?_eq_none {check : Check} :
    check.fault? clocks catalog program (ofStem program.functions stem) = none ↔
      ∀ error, ¬ check.Finds clocks catalog program stem error := by
  rw [Option.eq_none_iff_forall_ne_some]
  exact forall_congr' fun error => not_congr Check.fault?_eq_some

/-- A type is examined with success exactly where it passes all checks. -/
theorem exists_examine_eq_ok :
    (∃ s, examine clocks catalog program (ofStem program.functions stem) = .ok s) ↔
      Passes clocks catalog program stem := by
  have hok : (∃ s, examine clocks catalog program (ofStem program.functions stem) = .ok s) ↔
      Fallible.fault? (examine clocks catalog program (ofStem program.functions stem)) =
        none := by
    cases examine clocks catalog program (ofStem program.functions stem) <;>
      simp [Fallible.fault?]
  rw [hok, fault?_examine, List.findSome?_eq_none_iff]
  exact ⟨fun h check => Check.fault?_eq_none.mp (h check (Check.mem_all check)),
    fun h check _ => Check.fault?_eq_none.mpr (h check)⟩

/-- A type fails with the first fault that a check finds. -/
theorem examine_eq_error :
    examine clocks catalog program (ofStem program.functions stem) = .error error ↔
      FirstFault clocks catalog program stem error := by
  rw [← fault?_eq_some, fault?_examine, List.findSome?_eq_some_iff]
  simp only [Check.fault?_eq_some, Check.fault?_eq_none, FirstFault]

/-- All types are examined with success exactly where all pass. -/
theorem exists_selected_iff :
    (∃ selected, (stems.map (ofStem program.functions)).mapM (examine clocks catalog program) =
      .ok selected) ↔ ∀ x ∈ stems, Passes clocks catalog program x := by
  constructor
  · rintro ⟨selected, hselected⟩ stem hstem
    obtain ⟨s, -, hs⟩ := Fallible.exists_mem_of_mapM hselected (List.mem_map_of_mem hstem)
    exact exists_examine_eq_ok.mp ⟨s, hs⟩
  · intro hpasses
    cases hmap : (stems.map (ofStem program.functions)).mapM (examine clocks catalog program) with
    | ok selected => exact ⟨selected, rfl⟩
    | error error =>
      obtain ⟨front, d, later, hsplit, -, hd⟩ := Fallible.mapM_eq_error.mp hmap
      have hin : d ∈ stems.map (ofStem program.functions) := by
        rw [hsplit]
        exact List.mem_append_right _ List.mem_cons_self
      obtain ⟨stem, hstem, rfl⟩ := List.mem_map.mp hin
      obtain ⟨s, hs⟩ := exists_examine_eq_ok.mpr (hpasses stem hstem)
      cases hs.symm.trans hd

/-- A type is the first one that fails its checks. -/
theorem mapM_examine_eq_error :
    (stems.map (ofStem program.functions)).mapM (examine clocks catalog program) =
      .error error ↔ ∃ front stem later, stems = front ++ stem :: later ∧
        (∀ x ∈ front, Passes clocks catalog program x) ∧
        FirstFault clocks catalog program stem error := by
  rw [Fallible.mapM_eq_error]
  constructor
  · rintro ⟨front, d, later, hsplit, hfront, hd⟩
    obtain ⟨front, rest, rfl, rfl, hrest⟩ := List.map_eq_append_iff.mp hsplit
    obtain ⟨stem, later, rfl, rfl, -⟩ := List.map_eq_cons_iff.mp hrest
    refine ⟨front, stem, later, rfl, fun x hx => ?_, examine_eq_error.mp hd⟩
    exact exists_examine_eq_ok.mp (hfront _ (List.mem_map_of_mem hx))
  · rintro ⟨front, stem, later, rfl, hfront, hstem⟩
    refine ⟨_, _, _, List.map_append, fun d hd => ?_, examine_eq_error.mpr hstem⟩
    obtain ⟨x, hx, rfl⟩ := List.mem_map.mp hd
    exact exists_examine_eq_ok.mpr (hfront x hx)

/-- Extensions are made of the types that were examined, in turn. -/
theorem map_fst_of_mapM_examine {types : List Declaration}
    {selected : List (Declaration × List String)}
    (h : types.mapM (examine clocks catalog program) = .ok selected) :
    selected.map (·.1) = types := by
  have hselected := Fallible.mapM_eq_ok.mp h
  clear h
  induction hselected with
  | nil => rfl
  | cons hfirst _ ih =>
    obtain ⟨-, selector, -, rfl⟩ := examine_eq_ok.mp hfirst
    rw [List.map_cons, ih]

end Checks

section Making

/-- The id of a type with a first state. -/
def idFrom (clocks : Clocks) (program : Program) (stem : String) (state : Value) :
    Except LoadError String :=
  match identified clocks program stem state with
  | .error _ => .error (.failed (reported stem))
  | .ok (.str id) => (checkId (reported stem) id).map fun _ => id
  | .ok v => .error (.invalidId (reported stem) (.notText v.typeName))

/-- A type has its id from a state where the accessor gives it and it is matched. -/
theorem idFrom_eq_ok {state : Value} {id : String} : idFrom clocks program stem state = .ok id ↔
    identified clocks program stem state = .ok (.str id) ∧ MatchesAll idText id := by
  unfold idFrom
  constructor
  · intro h
    split at h
    next => cases h
    next other hgives =>
      obtain ⟨_, haccepted, rfl⟩ := Fallible.map_eq_ok.mp h
      exact ⟨hgives, checkId_eq_ok_iff.mp haccepted⟩
    next => cases h
  · rintro ⟨hgives, hmatches⟩
    rw [hgives]
    exact Fallible.map_eq_ok.mpr ⟨(), checkId_eq_ok_iff.mpr hmatches, rfl⟩

/-- A type has no id from a state exactly for one of the reasons. -/
theorem idFrom_eq_error {state : Value} : idFrom clocks program stem state = .error error ↔
    IdFails clocks program stem state error := by
  have hmap {id : String} : (checkId (reported stem) id).map (fun _ => id) = .error error ↔
      checkId (reported stem) id = .error error := by
    cases checkId (reported stem) id <;> simp [Except.map]
  unfold idFrom
  constructor
  · intro h
    split at h
    next stop hstops =>
      obtain rfl := Except.error.inj h
      exact .stopped hstops
    next id hgives =>
      rcases checkId_eq_error_iff.mp (hmap.mp h) with ⟨rfl, rfl⟩ | ⟨hsome, hunmatched, rfl⟩
      · exact .empty hgives
      · exact .refused hgives hsome hunmatched
    next v hnoText hgives =>
      obtain rfl := Except.error.inj h
      exact .notText hgives hnoText
  · intro h
    cases h with
    | stopped stops => rw [stops]
    | notText gives noText =>
      rw [gives]
      split
      next heq => cases heq
      next heq => exact absurd (Except.ok.inj heq) (noText _)
      next heq => rw [Except.ok.inj heq]
    | empty gives =>
      rw [gives]
      exact hmap.mpr (checkId_eq_error_iff.mpr (.inl ⟨rfl, rfl⟩))
    | refused gives some unmatched =>
      rw [gives]
      exact hmap.mpr (checkId_eq_error_iff.mpr (.inr ⟨some, unmatched, rfl⟩))

/-- An extension is made of the first state and the id of its type. -/
theorem instantiate_ofStem (clocks : Clocks) (program : Program) (stem : String)
    (selector : List String) :
    (instantiate clocks program (ofStem program.functions stem) selector).map (·.id) =
      initialState clocks program (ofStem program.functions stem) >>=
        idFrom clocks program stem := by
  have hstem : (ofStem program.functions stem).stem = stem := rfl
  unfold instantiate idFrom identified
  rw [functionName_ofStem, typeName_ofStem, hstem]
  cases initialState clocks program (ofStem program.functions stem) with
  | error fault => rfl
  | ok state =>
    simp only [bind, Except.bind, Capability.name]
    cases (program.call (clocks.id stem) (called stem "id") [] (some state)).result with
    | error stop => rfl
    | ok v =>
      cases v
      case str id =>
        dsimp only
        cases checkId (reported stem) id <;> rfl
      all_goals rfl

/-- An extension is made of a type exactly where the type gives its id. -/
theorem gives_iff {id : String} (selector : List String) : Gives clocks program stem id ↔
    ∃ e, instantiate clocks program (ofStem program.functions stem) selector = .ok e ∧
      e.id = id := by
  rw [← Fallible.map_eq_ok, instantiate_ofStem, bind_eq_ok]
  simp only [initialState_eq_ok, idFrom_eq_ok, Gives]

/-- More ids that are taken are in the way of more types. -/
theorem Unmade.mono {taken' : List String} (h : Unmade clocks program taken stem error)
    (hsub : taken ⊆ taken') : Unmade clocks program taken' stem error := by
  cases h with
  | init fails => exact .init fails
  | id starts fails => exact .id starts fails
  | duplicate gives isTaken => exact .duplicate gives (hsub isTaken)

/-- No extension is made of a type exactly where it has no first state or no id from there. -/
theorem instantiate_eq_error {selector : List String} :
    instantiate clocks program (ofStem program.functions stem) selector = .error error ↔
      (InitFails clocks program stem ∧ error = .failed (reported stem)) ∨
        ∃ state, Starts clocks program stem state ∧
          IdFails clocks program stem state error := by
  have hmap : instantiate clocks program (ofStem program.functions stem) selector =
        .error error ↔
      (instantiate clocks program (ofStem program.functions stem) selector).map (·.id) =
        .error error := by
    cases instantiate clocks program (ofStem program.functions stem) selector <;>
      simp [Except.map]
  rw [hmap, instantiate_ofStem, bind_eq_error]
  simp only [initialState_eq_error, initialState_eq_ok, idFrom_eq_error]

/-- A type of which no extension is made, or one with an id that is taken. -/
theorem unmade_iff (selector : List String) : Unmade clocks program taken stem error ↔
    instantiate clocks program (ofStem program.functions stem) selector = .error error ∨
      ∃ e, instantiate clocks program (ofStem program.functions stem) selector = .ok e ∧
        e.id ∈ taken ∧ error = .invalidId (reported stem) (.duplicate e.id) := by
  constructor
  · rintro (fails | ⟨starts, fails⟩ | ⟨gives, isTaken⟩)
    · exact .inl (instantiate_eq_error.mpr (.inl ⟨fails, rfl⟩))
    · exact .inl (instantiate_eq_error.mpr (.inr ⟨_, starts, fails⟩))
    · obtain ⟨e, he, rfl⟩ := (gives_iff selector).mp gives
      exact .inr ⟨e, he, isTaken, rfl⟩
  · rintro (fails | ⟨e, he, isTaken, rfl⟩)
    · obtain ⟨initFails, rfl⟩ | ⟨state, starts, fails⟩ := instantiate_eq_error.mp fails
      · exact .init initFails
      · exact .id starts fails
    · exact .duplicate ((gives_iff _).mpr ⟨e, he, rfl⟩) isTaken

theorem mem_map_insertById {id : String} {e : Extension} {es : List Extension} :
    id ∈ (insertById e es).map (·.id) ↔ id = e.id ∨ id ∈ es.map (·.id) := by
  simp [mem_insertById, or_and_right, exists_or, eq_comm]

/-- The id of an extension is taken once it was made. -/
theorem mem_taken_insertById {id : String} {e : Extension} {es : List Extension}
    {ids : List String} :
    id ∈ (insertById e es).map (·.id) ++ ids ↔ id ∈ es.map (·.id) ++ e.id :: ids := by
  rw [List.mem_append, mem_map_insertById, List.mem_append, List.mem_cons, or_assoc,
    or_left_comm]

/-- Making the extensions of types in turn fails at the first type of which none is made, after
types that gave new and distinct ids. The induction is on the types. -/
theorem instantiateAll_eq_error {sofar : List Extension}
    {selected : List (Declaration × List String)}
    (hselected : selected.map (·.1) = stems.map (ofStem program.functions)) :
    instantiateAll clocks program sofar selected = .error error ↔ ∃ front stem later ids,
      stems = front ++ stem :: later ∧ List.Forall₂ (Gives clocks program) front ids ∧
      ids.Nodup ∧ (∀ id ∈ ids, id ∉ sofar.map (·.id)) ∧
      Unmade clocks program (sofar.map (·.id) ++ ids) stem error := by
  induction selected generalizing sofar stems with
  | nil =>
    obtain rfl := List.map_eq_nil_iff.mp hselected.symm
    constructor
    · nofun
    · rintro ⟨front, stem, later, ids, hsplit, -⟩
      simp at hsplit
  | cons s selected ih =>
    obtain ⟨d, selector⟩ := s
    obtain ⟨first, stems, rfl, rfl, hrest⟩ := List.map_eq_cons_iff.mp hselected.symm
    rw [instantiateAll, bind_eq_error]
    constructor
    · rintro (fails | ⟨e, he, fails⟩)
      · refine ⟨[], first, _, [], rfl, .nil, List.nodup_nil, nofun, ?_⟩
        exact (unmade_iff selector).mpr (.inl fails)
      · split at fails
        next hdup =>
          cases fails
          refine ⟨[], first, _, [], rfl, .nil, List.nodup_nil, nofun, ?_⟩
          have htaken : e.id ∈ sofar.map (·.id) := by simpa using hdup
          rw [typeName_ofStem]
          exact (unmade_iff selector).mpr (.inr ⟨e, he, List.mem_append_left _ htaken, rfl⟩)
        next hnew =>
          -- what the first type gives is taken for the types behind it
          obtain ⟨front, stem, later, ids, hsplit, hgives, hnodup, hfresh, hunmade⟩ :=
            (ih hrest.symm).mp fails
          have hfresh' : e.id ∉ ids := fun hid =>
            hfresh _ hid (mem_map_insertById.mpr (.inl rfl))
          have hnew : e.id ∉ sofar.map (·.id) := by simpa using hnew
          refine ⟨first :: front, stem, later, e.id :: ids, by rw [hsplit]; rfl,
            .cons ((gives_iff selector).mpr ⟨e, he, rfl⟩) hgives,
            List.nodup_cons.mpr ⟨hfresh', hnodup⟩, ?_, ?_⟩
          · refine List.forall_mem_cons.mpr ⟨hnew, fun id hid hold => ?_⟩
            exact hfresh id hid (mem_map_insertById.mpr (.inr hold))
          · exact hunmade.mono fun id => mem_taken_insertById.mp
    · rintro ⟨front, stem, later, ids, hsplit, hgives, hnodup, hfresh, hunmade⟩
      cases hgives with
      | nil =>
        obtain ⟨rfl, -⟩ := List.cons.inj hsplit
        rw [List.append_nil] at hunmade
        rcases (unmade_iff selector).mp hunmade with fails | ⟨e, he, htaken, rfl⟩
        · exact .inl fails
        · have hdup : sofar.any (·.id == e.id) = true := by simpa using htaken
          rw [← typeName_ofStem program.functions first]
          exact .inr ⟨e, he, if_pos hdup⟩
      | cons hfirst hgives =>
        obtain ⟨rfl, hlater⟩ := List.cons.inj hsplit
        obtain ⟨e, he, rfl⟩ := (gives_iff selector).mp hfirst
        obtain ⟨hfresh', hnodup⟩ := List.nodup_cons.mp hnodup
        obtain ⟨hnew, hfresh⟩ := List.forall_mem_cons.mp hfresh
        have hdup : ¬ sofar.any (·.id == e.id) = true := by simpa using hnew
        refine .inr ⟨e, he, (if_neg hdup).trans ((ih hrest.symm).mpr ?_)⟩
        refine ⟨_, stem, later, _, hlater, hgives, hnodup, fun id hid hold => ?_,
          hunmade.mono fun id => mem_taken_insertById.mpr⟩
        rcases mem_map_insertById.mp hold with rfl | hold
        · exact hfresh' hid
        · exact hfresh id hid hold

end Making

variable {source other : String}

/-- What a script fails with is the first failure among its stages. -/
theorem fails_of_ofSource (h : ofSource clocks catalog source = .error error) :
    Fails clocks catalog source error := by
  unfold ofSource at h
  cases hreads : Program.ofSource source with
  | error fault =>
    rw [hreads] at h
    cases h
    exact .unread hreads
  | ok program =>
    have hstems := hookedStems_extensionTypes program
    simp only [hreads, ofProgram_eq] at h
    split at h
    next hnone =>
      cases h
      exact .empty hreads (extensionTypes_eq_nil_iff.mp hnone)
    next hsome =>
      rw [hstems.extensionTypes_eq] at h
      generalize (extensionTypes program.functions).map (·.stem) = stems at h hstems
      rcases bind_eq_error.mp h with h | ⟨selected, hselected, h⟩
      · obtain ⟨front, stem, later, rfl, hbefore, hfault⟩ := mapM_examine_eq_error.mp h
        exact .checked hreads hstems hbefore hfault
      · have hpasses := exists_selected_iff.mp ⟨selected, hselected⟩
        have hall : ∀ x, Hooked program x → Passes clocks catalog program x :=
          fun x hx => hpasses x ((hstems.hooked x).mpr hx)
        cases hfile : (program.runFile clocks.file).result with
        | error stop =>
          rw [hfile] at h
          cases h
          rw [extensionTypes_eq_nil_iff, not_forall_not] at hsome
          obtain ⟨stem, hhooked⟩ := hsome
          exact .body hreads hhooked hall hfile
        | ok v =>
          rw [hfile] at h
          obtain ⟨front, stem, later, ids, rfl, hgives, hnodup, -, hunmade⟩ :=
            (instantiateAll_eq_error (map_fst_of_mapM_examine hselected)).mp h
          exact .unmade hreads hall hfile hstems hgives hnodup hunmade

/-- The first failure among the stages of a script is what it fails with. -/
theorem Fails.ofSource (h : Fails clocks catalog source error) :
    ofSource clocks catalog source = .error error := by
  unfold Extension.ofSource
  cases h with
  | unread reads => rw [reads]
  | empty reads hookless =>
    simp only [reads, ofProgram_eq, if_pos (extensionTypes_eq_nil_iff.mpr hookless)]
  | checked reads stems before fails =>
    have hsome := stems.extensionTypes_eq ▸
      mt List.map_eq_nil_iff.mp (List.append_ne_nil_of_right_ne_nil _ (List.cons_ne_nil _ _))
    simp only [reads, ofProgram_eq, if_neg hsome]
    rw [stems.extensionTypes_eq]
    exact bind_eq_error.mpr (.inl (mapM_examine_eq_error.mpr ⟨_, _, _, rfl, before, fails⟩))
  | body reads hooked passes stops =>
    rename_i program stop stem
    have hstems := hookedStems_extensionTypes program
    have hsome : extensionTypes program.functions ≠ [] :=
      fun hnone => extensionTypes_eq_nil_iff.mp hnone stem hooked
    obtain ⟨selected, hselected⟩ := exists_selected_iff.mpr
      fun x hx => passes x ((hstems.hooked x).mp hx)
    simp only [reads, ofProgram_eq, if_neg hsome]
    rw [hstems.extensionTypes_eq]
    exact bind_eq_error.mpr (.inr ⟨selected, hselected, by rw [stops]; rfl⟩)
  | unmade reads passes runs stems before distinct fails =>
    obtain ⟨selected, hselected⟩ := exists_selected_iff.mpr
      fun x hx => passes x ((stems.hooked x).mp hx)
    have hsome := stems.extensionTypes_eq ▸
      mt List.map_eq_nil_iff.mp (List.append_ne_nil_of_right_ne_nil _ (List.cons_ne_nil _ _))
    simp only [reads, ofProgram_eq, if_neg hsome]
    rw [stems.extensionTypes_eq]
    refine bind_eq_error.mpr (.inr ⟨selected, hselected, ?_⟩)
    rw [runs]
    exact (instantiateAll_eq_error (map_fst_of_mapM_examine hselected)).mpr
      ⟨_, _, _, _, rfl, before, distinct, fun _ _ => List.not_mem_nil, fails⟩

/-- A script fails as the first of its stages that fails. -/
theorem ofSource_eq_error :
    ofSource clocks catalog source = .error error ↔ Fails clocks catalog source error :=
  ⟨fails_of_ofSource, Fails.ofSource⟩

/-- What is found wrong with a type before the file runs. -/
def LoadError.IsCheck : LoadError → Prop
  | .tooManyInitializers _ | .initializerParameters _ _ | .missingId _ | .hookParameters _ _ _
  | .unknownOperation _ _ | .invalidSelector _ _ => True
  | _ => False

/-- What a check finds is an error of the checks. -/
theorem Check.Finds.isCheck {check : Check} (h : check.Finds clocks catalog program stem error) :
    error.IsCheck := by
  cases h with
  | selector fails =>
    cases fails with
    | entry _ _ _ _ fails => cases fails <;> trivial
    | _ => trivial
  | _ => trivial

/-- What stops the making of an extension is no error of the checks. -/
theorem Unmade.not_isCheck (h : Unmade clocks program taken stem error) : ¬ error.IsCheck := by
  cases h with
  | id _ fails => cases fails <;> exact not_false
  | _ => exact not_false

section Alike

/-- Two scripts with the same functions, whose selectors read the same of the clocks. -/
structure Alike (clocks clocks' : Clocks) (program program' : Program) : Prop where
  functions : program.functions.Perm program'.functions
  found : Function.FoundAlike program.functions program'.functions
  selector : ∀ stem, clocks.selector stem = clocks'.selector stem

namespace Alike

variable (h : Alike clocks clocks' program program') {part : String} {arity : Nat}
  {check : Check}
include h

theorem symm : Alike clocks' clocks program' program :=
  ⟨h.functions.symm, fun name arity => (h.found name arity).symm,
    fun stem => (h.selector stem).symm⟩

theorem provides : Provides program stem part ↔ Provides program' stem part :=
  exists_congr fun _ => and_congr_left' h.functions.mem_iff

theorem providesWith :
    ProvidesWith program stem part arity ↔ ProvidesWith program' stem part arity :=
  exists_congr fun _ => and_congr_left' h.functions.mem_iff

theorem functionsFor :
    (functionsFor program stem part).Perm (functionsFor program' stem part) :=
  h.functions.filter _

theorem hooked : Hooked program stem ↔ Hooked program' stem :=
  or_congr h.provides h.provides

theorem hookedStems (hstems : HookedStems program stems) : HookedStems program' stems :=
  ⟨hstems.ascending, fun stem => (hstems.hooked stem).trans h.hooked⟩

theorem call (name : String) (args : List Value) (this : Option Value) :
    program.call (clocks.selector stem) name args this =
      program'.call (clocks'.selector stem) name args this := by
  rw [h.selector, Program.call_congr h.found]

/-- A type has no selector in both scripts, for the same reason. -/
theorem selectorFails (hfails : SelectorFails clocks catalog program stem error) :
    SelectorFails clocks' catalog program' stem error := by
  cases hfails with
  | undeclared lacks => exact .undeclared (mt h.provides.mpr lacks)
  | hasParameters provides lacks =>
    exact .hasParameters (h.provides.mp provides) (mt h.providesWith.mpr lacks)
  | scriptFailed provides stops =>
    exact .scriptFailed (h.providesWith.mp provides) (h.call _ _ _ ▸ stops)
  | notList provides gives noList =>
    exact .notList (h.providesWith.mp provides) (h.call _ _ _ ▸ gives) noList
  | entry provides gives split before fails =>
    exact .entry (h.providesWith.mp provides) (h.call _ _ _ ▸ gives) split before fails

/-- A check finds the same in both scripts. Where there is one initializer, there is only one
order of them. -/
theorem finds (hfinds : check.Finds clocks catalog program stem error) :
    check.Finds clocks' catalog program' stem error := by
  cases hfinds with
  | initializers several => exact .initializers (h.functionsFor.length_eq ▸ several)
  | parameters single takes =>
    exact .parameters (List.perm_singleton.mp (single ▸ h.functionsFor.symm)) takes
  | id lacks => exact .id (mt h.providesWith.mpr lacks)
  | requestHook provides lacks =>
    exact .requestHook (h.provides.mp provides) (mt h.providesWith.mpr lacks)
  | responseHook provides lacks =>
    exact .responseHook (h.provides.mp provides) (mt h.providesWith.mpr lacks)
  | selector fails => exact .selector (h.selectorFails fails)

theorem passes (hpasses : Passes clocks catalog program stem) :
    Passes clocks' catalog program' stem :=
  fun check error hfinds => hpasses check error (h.symm.finds hfinds)

theorem firstFault (hfault : FirstFault clocks catalog program stem error) :
    FirstFault clocks' catalog program' stem error := by
  obtain ⟨before, check, after, hsplit, hfinds, hbefore⟩ := hfault
  exact ⟨before, check, after, hsplit, h.finds hfinds,
    fun c hc e hfinds => hbefore c hc e (h.symm.finds hfinds)⟩

end Alike

/-- A script with the same functions, in whatever order and around whatever statements, fails the
same check. -/
theorem Fails.of_alike (h : Fails clocks catalog source error) (hcheck : error.IsCheck)
    (hreads : Program.ofSource source = .ok program)
    (hother : Program.ofSource other = .ok program')
    (halike : Alike clocks clocks' program program') : Fails clocks' catalog other error := by
  cases h with
  | unread | empty | body => exact absurd hcheck not_false
  | unmade _ _ _ _ _ _ fails => exact absurd hcheck fails.not_isCheck
  | checked reads stems before fails =>
    cases hreads.symm.trans reads
    exact .checked hother (halike.hookedStems stems) (fun x hx => halike.passes (before x hx))
      (halike.firstFault fails)

/-- Scripts that have the same functions are alike for the selectors that read the same. -/
theorem alike_of_mem_iff (hreads : Program.ofSource source = .ok program)
    (hother : Program.ofSource other = .ok program')
    (hsame : ∀ f, f ∈ program.functions ↔ f ∈ program'.functions)
    (hclocks : ∀ stem, clocks.selector stem = clocks'.selector stem) :
    Alike clocks clocks' program program' := by
  have hdistinct := Program.distinct_of_ofSource hreads
  have hdistinct' := Program.distinct_of_ofSource hother
  exact ⟨(List.perm_ext_iff_of_nodup hdistinct.nodup hdistinct'.nodup).mpr hsame,
    hdistinct.foundAlike hdistinct' hsame, hclocks⟩

end Alike

/-- In which order a load fails. -/
structure PrecedenceLaws (clocks : Clocks) (catalog : OperationCatalog) (source : String) :
    Prop where
  /-- A load fails with the first failure in the order of the stages. -/
  precedence : ∀ error,
    ofSource clocks catalog source = .error error ↔ Fails clocks catalog source error
  /-- The types are examined and made by ascending prefixes; those with a hook are one list. -/
  types : ∀ program, Program.ofSource source = .ok program → ∃! stems, HookedStems program stems
  /-- The type without a prefix comes first. -/
  unprefixed : ∀ program stems, Program.ofSource source = .ok program →
    HookedStems program stems → "" ∈ stems → stems.head? = some ""
  /-- What a check of a type finds is told apart from all other failures. -/
  checks : ∀ program stem error, FirstFault clocks catalog program stem error → error.IsCheck
  /-- Scripts with the same functions fail the same check, whatever else stands in them and
  whatever else the clocks show, if they show the same to the selectors. -/
  fixed : ∀ other program program' clocks', Program.ofSource source = .ok program →
    Program.ofSource other = .ok program' →
    (∀ f, f ∈ program.functions ↔ f ∈ program'.functions) →
    (∀ stem, clocks.selector stem = clocks'.selector stem) →
    ∀ error, error.IsCheck → (ofSource clocks catalog source = .error error ↔
      ofSource clocks' catalog other = .error error)

end CloudEmulator.Extension
