import CloudEmulator.Script.Evaluation
import Mathlib.Data.List.Forall2
import Mathlib.Data.List.Nodup

/-!
# Functions that make maps of their arguments

A function whose body is a map of its parameters gives the map of its arguments, whatever these
are, and leaves `this` as it is.
-/

namespace CloudEmulator.Script

variable {functions : List Function} {fuel : Nat} {m m' : Machine} {name : String}

/-- The machine after so many more operations. -/
def Machine.spent (m : Machine) (n : Nat) : Machine :=
  { m with operations := m.operations + n }

/-- The machine that a call of a function begins with. -/
def Machine.entering (clock : Clock) (f : Function) (args : List Value) (this : Option Value) :
    Machine where
  scope := (f.params.zip args).reverse.map fun (name, value) => { name, value }
  this := this
  clock := clock

/-- The latest variable of the name has the value. -/
def Machine.Has (m : Machine) (name : String) (v : Value) : Prop :=
  ∃ x, m.scope.find? (·.name == name) = some x ∧ x.value = v

namespace Run

/-- Behind a part that succeeds the next one runs. -/
theorem bind_eq {α β : Type} {x : Run α} {a : α} (hx : x m = (.ok a, m')) (f : α → Run β) :
    (x >>= f) m = f a m' := by
  simp only [bind, ExceptT.bind, ExceptT.mk, StateT.bind, hx]
  rfl

/-- Below the limit an operation is counted. -/
theorem tick_eq (hm : m.operations < maxOperations) : tick m = (.ok (), m.spent 1) := by
  have hlimit : ¬ maxOperations < m.operations + 1 := by omega
  change (if maxOperations < m.operations + 1 then throw Stop.exhausted else pure () : Run Unit)
    (m.spent 1) = (.ok (), m.spent 1)
  rw [if_neg hlimit]
  rfl

end Run

/-- A variable that is there is found. -/
theorem Run.lookup_eq {x : Variable} (hx : m.scope.find? (·.name == name) = some x) :
    Run.lookup name m = (.ok x, m) := by
  have hget : (get : Run Machine) m = (.ok m, m) := rfl
  rw [Run.lookup, Run.bind_eq hget, hx]
  rfl

/-- A variable costs one operation. -/
theorem evaluate_variable {v : Value} (hm : m.operations < maxOperations) (hv : m.Has name v) :
    evaluate (fuel + 1) functions (.variable name) m = (.ok v, m.spent 1) := by
  obtain ⟨x, hx, rfl⟩ := hv
  have hlookup : Run.lookup name (m.spent 1) = (.ok x, m.spent 1) := Run.lookup_eq hx
  rw [evaluate, Run.bind_eq (Run.tick_eq hm), Run.bind_eq hlookup]
  rfl

/-- Variables have their values in order, and cost one operation each. -/
theorem evaluateAll_variables {names : List String} {vs : List Value}
    (hvs : List.Forall₂ m.Has names vs) (hm : m.operations + names.length ≤ maxOperations) :
    evaluateAll (fuel + names.length + 1) functions (names.map .variable) m =
      (.ok vs, m.spent names.length) := by
  induction names generalizing m vs with
  | nil =>
    obtain rfl := List.forall₂_nil_left_iff.mp hvs
    rfl
  | cons name names ih =>
    obtain ⟨v, vs, hv, hlater, rfl⟩ := List.forall₂_cons_left_iff.mp hvs
    rw [List.length_cons] at hm
    have hrest : evaluateAll (fuel + names.length + 1) functions (names.map .variable)
        (m.spent 1) = (.ok vs, (m.spent 1).spent names.length) :=
      ih hlater (by simp only [Machine.spent]; omega)
    have hspent : (m.spent 1).spent names.length = m.spent (names.length + 1) := by
      simp only [Machine.spent, Nat.add_assoc, Nat.add_comm 1]
    rw [List.map_cons, List.length_cons, ← Nat.add_assoc, evaluateAll,
      Run.bind_eq (evaluate_variable (by omega) hv), Run.bind_eq hrest, hspent]
    rfl

/-- The body of the function is a map of its parameters under some names. -/
structure Function.Records (f : Function) (fields : List String) : Prop where
  length : fields.length = f.params.length
  nodup : f.params.Nodup
  body : f.body = [.expr (.map (fields.zip (f.params.map .variable)))]

/-- The name of a variable. -/
def Expr.name? : Expr → Option String
  | .variable name => some name
  | _ => none

/-- A variable is told by its name. -/
theorem Expr.name?_eq_some {e : Expr} : e.name? = some name ↔ e = .variable name := by
  cases e <;> simp [name?]

/-- The function has the body that makes a map of its parameters. -/
def Function.isRecord (f : Function) (fields : List String) : Bool :=
  match f.body with
  | [.expr (.map entries)] =>
    entries.map (fun (field, e) => (field, e.name?)) = fields.zip (f.params.map some)
  | _ => false

/-- Entries are variables under some fields where their names are. -/
theorem map_name?_eq_zip {entries : List (String × Expr)} {fields names : List String}
    (h : entries.map (fun (field, e) => (field, e.name?)) = fields.zip (names.map some)) :
    entries = fields.zip (names.map .variable) := by
  induction entries generalizing fields names with
  | nil =>
    rcases List.zip_eq_nil_iff.mp h.symm with rfl | hnames
    · rfl
    · rw [List.map_eq_nil_iff.mp hnames, List.map_nil, List.zip_nil_right]
  | cons entry entries ih =>
    match fields, names with
    | [], _ => simp at h
    | _ :: _, [] => simp at h
    | field :: fields, name :: names =>
      simp only [List.map_cons, List.zip_cons_cons, List.cons.injEq, Prod.mk.injEq] at h ⊢
      obtain ⟨⟨hfield, hname⟩, hlater⟩ := h
      exact ⟨Prod.ext hfield (Expr.name?_eq_some.mp hname), ih hlater⟩

/-- A function of this kind is known by its body. -/
theorem Function.records_of_isRecord {f : Function} {fields : List String}
    (hlength : fields.length = f.params.length) (hnodup : f.params.Nodup)
    (hbody : f.isRecord fields = true) : f.Records fields := by
  refine ⟨hlength, hnodup, ?_⟩
  unfold isRecord at hbody
  split at hbody
  next entries hentries =>
    rw [hentries, map_name?_eq_zip (of_decide_eq_true hbody)]
  next => cases hbody

/-- In the scope of a call each parameter has its argument. -/
theorem has_parameters {params : List String} {args : List Value} (hnodup : params.Nodup)
    (hlength : params.length = args.length)
    (hscope : m.scope = (params.zip args).reverse.map fun (name, value) => { name, value }) :
    List.Forall₂ m.Has params args := by
  refine List.forall₂_iff_zip.mpr ⟨hlength, fun {name v} hmem => ?_⟩
  have hnames : (m.scope.map (·.name)).Nodup := by
    have hzip : (params.zip args).map (·.1) = params :=
      List.map_fst_zip (Nat.le_of_eq hlength)
    rw [hscope, List.map_map, List.map_reverse, List.nodup_reverse]
    exact hzip.symm ▸ hnodup
  have hthere : ⟨name, v, false⟩ ∈ m.scope := by
    rw [hscope]
    exact List.mem_map.mpr ⟨(name, v), List.mem_reverse.mpr hmem, rfl⟩
  -- Names are different, so that it does not matter from which end they are looked up.
  obtain ⟨x, hx⟩ : ∃ x, m.scope.find? (·.name == name) = some x :=
    Option.isSome_iff_exists.mp (List.find?_isSome.mpr ⟨_, hthere, beq_self_eq_true name⟩)
  have hname : x.name = name := by simpa using List.find?_some hx
  have hsame := List.inj_on_of_nodup_map hnames (List.mem_of_find?_eq_some hx) hthere hname
  exact ⟨x, hx, hsame ▸ rfl⟩

/-- A map of variables has their values, at the cost of one operation more than these. -/
theorem evaluate_record {fields names : List String} {vs : List Value}
    (hvs : List.Forall₂ m.Has names vs) (hlength : fields.length = names.length)
    (hm : m.operations + names.length < maxOperations) :
    evaluate (fuel + names.length + 2) functions (.map (fields.zip (names.map .variable))) m =
      (.ok (.ofEntries (fields.zip vs)), (m.spent 1).spent names.length) := by
  have hsize : fields.length = (names.map Expr.variable).length := by
    rw [hlength, List.length_map]
  have hall : evaluateAll (fuel + names.length + 1) functions
      ((fields.zip (names.map .variable)).map (·.2)) (m.spent 1) =
      (.ok vs, (m.spent 1).spent names.length) := by
    have hzip : (fields.zip (names.map Expr.variable)).map (·.2) = names.map .variable :=
      List.map_snd_zip (Nat.le_of_eq hsize.symm)
    rw [hzip]
    exact evaluateAll_variables hvs (by simp only [Machine.spent]; omega)
  have hfields : (fields.zip (names.map Expr.variable)).map (·.1) = fields :=
    List.map_fst_zip (Nat.le_of_eq hsize)
  rw [evaluate, Run.bind_eq (Run.tick_eq (by omega)), Run.bind_eq hall, hfields]
  rfl

/-- A call whose body runs to its end gives the value of it, and leaves `this` and the clocks
as they are then. -/
theorem Program.call_eq {p : Program} {clock : Clock} {f : Function} {args : List Value}
    {v : Value} {this : Option Value}
    (hfound : Function.find? p.functions name args.length = some f)
    (hrun : runAll supply p.functions f.body .unit (.entering clock f args this) = (.ok v, m)) :
    p.call clock name args this = ⟨.ok v, m.this, m.clock⟩ := by
  have hend (x : Run Value) (hx : x { this, clock } = (.ok v, m)) :
      Ending.ofRun clock x this = ⟨.ok v, m.this, m.clock⟩ := by
    simp only [Ending.ofRun, hx]
  rw [Program.call, hfound]
  exact hend _ ((Run.bind_eq rfl _).trans hrun)

/-- A function that is found has the number of parameters that it is looked up by. -/
theorem Function.length_of_find? {f : Function} {arity : Nat}
    (hfound : Function.find? functions name arity = some f) : f.params.length = arity :=
  beq_iff_eq.mp (Bool.and_eq_true_iff.mp (List.find?_some
    (p := fun f : Function => f.name == name && f.arity == arity) hfound)).2

/-- Such a function gives the map of its arguments, and reads no clock. -/
theorem Program.call_records {p : Program} {f : Function} {fields : List String}
    {args : List Value} (hfound : Function.find? p.functions name args.length = some f)
    (hf : f.Records fields) (hfew : args.length + 2 ≤ maxOperations) (clock : Clock)
    (this : Option Value) :
    p.call clock name args this = ⟨.ok (.ofEntries (fields.zip args)), this, clock⟩ := by
  have hlength := Function.length_of_find? hfound
  obtain ⟨fuel, hfuel⟩ : ∃ fuel, supply = fuel + f.params.length + 2 + 1 + 1 := by
    have hsupply : maxOperations + 2 ≤ supply := by decide
    exact ⟨supply - (f.params.length + 4), by omega⟩
  have hargs : List.Forall₂ ((Machine.entering clock f args this).spent 1).Has f.params args :=
    has_parameters hf.nodup hlength rfl
  have hvalue : evaluate (fuel + f.params.length + 2) p.functions
      (.map (fields.zip (f.params.map .variable))) ((Machine.entering clock f args this).spent 1) =
        (.ok (.ofEntries (fields.zip args)),
          (((Machine.entering clock f args this).spent 1).spent 1).spent f.params.length) :=
    evaluate_record hargs hf.length (by simp only [Machine.spent, Machine.entering]; omega)
  have hstep : run (fuel + f.params.length + 2 + 1) p.functions
      (.expr (.map (fields.zip (f.params.map .variable)))) (.entering clock f args this) =
        (.ok (.ofEntries (fields.zip args)),
          (((Machine.entering clock f args this).spent 1).spent 1).spent f.params.length) := by
    rw [run, Run.bind_eq (Run.tick_eq (by simp only [Machine.entering]; omega))]
    exact hvalue
  refine Program.call_eq (m := (((Machine.entering clock f args this).spent 1).spent 1).spent
    f.params.length) hfound ?_
  rw [hf.body, hfuel, runAll, Run.bind_eq hstep]
  rfl

end CloudEmulator.Script
